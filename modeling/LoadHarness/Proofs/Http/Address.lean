import LoadHarness.Http.Exchange
import LoadHarness.Profile.Basic
import LoadHarness.Url.Reader

/-!
# Addresses of requests

A base address that was read has segments in its path, at least one, and none of them holds a
slash. So its path ends in a slash exactly if the last segment is empty, and a path that is resolved
against it replaces nothing but that. A request goes to the place of the base address, and its path
is the whole path of the base address with the path of the step behind it.
-/

namespace LoadHarness

/-! ## Parts between separators -/

theorem splitChars_ne_nil (separator : Char) (cs : List Char) : splitChars separator cs ≠ [] := by
  induction cs with
  | nil => exact List.cons_ne_nil _ _
  | cons c rest ih =>
      rw [splitChars]
      split
      · exact List.cons_ne_nil _ _
      · split <;> exact List.cons_ne_nil _ _

/-- No part holds the separator. -/
theorem not_mem_of_mem_splitChars {separator : Char} {cs part : List Char}
    (mem : part ∈ splitChars separator cs) : separator ∉ part := by
  induction cs generalizing part with
  | nil =>
      obtain rfl := List.mem_singleton.mp mem
      exact List.not_mem_nil
  | cons c rest ih =>
      rw [splitChars] at mem
      split at mem
      · rcases List.mem_cons.mp mem with rfl | later
        · exact List.not_mem_nil
        · exact ih later
      · next unlike =>
        split at mem
        · obtain rfl := List.mem_singleton.mp mem
          simpa using Ne.symm unlike
        · next first others parts =>
          rcases List.mem_cons.mp mem with rfl | later
          · have apart := ih (parts ▸ List.mem_cons_self)
            simpa using ⟨Ne.symm unlike, apart⟩
          · exact ih (parts ▸ List.mem_cons_of_mem first later)

/-! ## Segments of a path that was read -/

namespace Url

/-- The segments of a path that was read. -/
structure Segmented (parts : List String) : Prop where
  filled : parts ≠ []
  apart : ∀ part ∈ parts, '/' ∉ part.toList

theorem slash_not_mem_encodeByte (b : UInt8) : '/' ∉ Percent.encodeByte b := by
  have digits : ∀ n < 16, '/' ≠ (Nat.digitChar n).toUpper := by decide
  have high : b.toNat / 16 < 16 := Nat.div_lt_of_lt_mul b.toNat_lt
  have low : b.toNat % 16 < 16 := Nat.mod_lt _ (by decide)
  simp [Percent.encodeByte, digits _ high, digits _ low]

/-- Percent signs make no slash. -/
theorem slash_not_mem_encode {special cs : List Char} (apart : '/' ∉ cs) :
    '/' ∉ (Percent.encode special cs).toList := by
  rw [Percent.encode, String.toList_ofList, List.mem_flatMap]
  rintro ⟨c, mem, written⟩
  rw [Percent.encodeChar] at written
  split at written
  · obtain ⟨b, -, digit⟩ := List.mem_flatMap.mp written
    exact slash_not_mem_encodeByte b digit
  · obtain rfl := List.mem_singleton.mp written
    exact apart mem

/-- Dots that are resolved leave the other segments as they are. -/
theorem resolveDots_forall {p : String → Prop} (empty : p "") {done segments : List String}
    (before : ∀ s ∈ done, p s) (after : ∀ s ∈ segments, p s) :
    ∀ s ∈ resolveDots done segments, p s := by
  induction segments generalizing done with
  | nil => exact before
  | cons segment rest ih =>
      have later : ∀ s ∈ rest, p s := fun s mem => after s (List.mem_cons_of_mem segment mem)
      have tail : ∀ s ∈ (if rest.isEmpty then [""] else []), p s := by
        intro s mem
        split at mem
        · exact List.mem_singleton.mp mem ▸ empty
        · cases mem
      have above : ∀ s ∈ placeAbove done, p s := by
        intro s mem
        rw [placeAbove] at mem
        split at mem
        · exact before s mem
        · exact before s (List.dropLast_subset done mem)
      rw [resolveDots]
      split
      · exact ih (List.forall_mem_append.mpr ⟨above, tail⟩) later
      · split
        · exact ih (List.forall_mem_append.mpr ⟨before, tail⟩) later
        · have first : p segment := after segment List.mem_cons_self
          exact ih (List.forall_mem_append.mpr ⟨before, by simpa using first⟩) later

theorem resolveDots_ne_nil {done segments : List String} (filled : segments ≠ []) :
    resolveDots done segments ≠ [] := by
  induction segments generalizing done with
  | nil => exact absurd rfl filled
  | cons segment rest ih =>
      cases rest with
      | nil =>
          simp only [resolveDots, List.isEmpty_nil, if_true]
          split
          · exact List.append_ne_nil_of_right_ne_nil _ (List.cons_ne_nil _ _)
          · split <;> exact List.append_ne_nil_of_right_ne_nil _ (List.cons_ne_nil _ _)
      | cons next rest =>
          rw [resolveDots]
          split
          · exact ih (List.cons_ne_nil _ _)
          · split <;> exact ih (List.cons_ne_nil _ _)

/-- The path of a special scheme is read as segments. -/
theorem pathOf_special (cs : List Char) :
    ∃ parts, pathOf true cs = .segments parts ∧ Segmented parts := by
  have read (inner : List Char) : Segmented
      (resolveDots [] ((splitSegments true inner).map (Percent.encode Percent.pathSet))) := by
    refine ⟨resolveDots_ne_nil ?_, resolveDots_forall (by decide) nofun fun s mem => ?_⟩
    · exact mt List.map_eq_nil_iff.mp (splitChars_ne_nil _ _)
    · obtain ⟨part, split, rfl⟩ := List.mem_map.mp mem
      exact slash_not_mem_encode (not_mem_of_mem_splitChars split)
  simp only [pathOf, Bool.not_true, Bool.false_eq_true, and_false, if_false]
  exact ⟨_, rfl, read _⟩

/-- What a special scheme other than that of files names has an authority. -/
theorem placeOf_special {scheme : String} {cs rest : List Char} {authority : Option Authority}
    (special : isSpecial scheme = true) (noFile : scheme ≠ "file")
    (place : placeOf scheme cs = .ok (authority, rest)) : authority.isSome = true := by
  simp only [placeOf, if_neg noFile, if_pos special] at place
  revert place
  cases authorityOf scheme _ with
  | error => exact nofun
  | ok read =>
      rintro ⟨⟩
      rfl

/-- A web address that was read has an authority, and segments in its path. -/
theorem ofText?_web {text : String} {u : Url} (read : ofText? text = .ok u)
    (web : u.scheme = "http" ∨ u.scheme = "https") :
    u.authority.isSome = true ∧ ∃ parts, u.path = .segments parts ∧ Segmented parts := by
  have special {scheme : String} (web : scheme = "http" ∨ scheme = "https") :
      isSpecial scheme = true ∧ scheme ≠ "file" := by
    rcases web with rfl | rfl <;> decide
  simp only [ofText?] at read
  split at read
  · next scheme rest split =>
    cases placed : placeOf scheme rest with
    | error fault =>
        rw [placed] at read
        cases read
    | ok place =>
        obtain ⟨authority, rest⟩ := place
        rw [placed] at read
        obtain rfl := Except.ok.inj read
        -- with an authority the path is read as segments, whatever it starts with
        obtain ⟨isSpecial, noFile⟩ := special web
        have named := placeOf_special isSpecial noFile placed
        refine ⟨named, ?_⟩
        simp only [named, true_or, if_true, isSpecial]
        exact pathOf_special _
  · cases read

/-! ## The text of a path -/

theorem Path.toText_append (front back : List String) :
    (Path.segments (front ++ back)).toText =
      (Path.segments front).toText ++ (Path.segments back).toText := by
  simp only [toText, List.map_append, String.join_append]

/-- The slash that a path still needs at its end. -/
def Path.missingSlash (p : Path) : String :=
  if p.toText.toList.getLast? = some '/' then "" else "/"

theorem Path.toText_snoc (front : List String) (last : String) :
    (Path.segments (front ++ [last])).toText = (Path.segments front).toText ++ "/" ++ last := by
  simp [toText, String.append_assoc]

/-- A path ends in a slash exactly if its last segment is empty. -/
theorem Path.missingSlash_snoc (front : List String) {last : String} (apart : '/' ∉ last.toList) :
    (Path.segments (front ++ [last])).missingSlash = if last = "" then "" else "/" := by
  have ends : (Path.segments (front ++ [last])).toText.toList.getLast? =
      some (last.toList.getLast?.getD '/') := by
    simp [Path.toText_snoc, List.getLast?_append, List.getLast?_cons]
  have empty : last = "" ↔ last.toList.getLast?.getD '/' = '/' := by
    cases written : last.toList.getLast? with
    | none => simpa using written
    | some c =>
        have mem := List.mem_of_getLast? written
        have slash : c ≠ '/' := fun same => apart (same ▸ mem)
        have filled : last ≠ "" := fun empty => by simp [empty] at mem
        simp [slash, filled]
  simp only [missingSlash, ends, Option.some.injEq, ← empty]

/-- The segments without an empty one at the end. -/
def withoutSlash (parts : List String) : List String :=
  if parts.getLast? = some "" then parts.dropLast else parts

theorem Segmented.exists_snoc {parts : List String} (segmented : Segmented parts) :
    ∃ front last, parts = front ++ [last] ∧ '/' ∉ last.toList := by
  have split := List.dropLast_concat_getLast segmented.filled
  exact ⟨_, _, split.symm, segmented.apart _ (List.getLast_mem segmented.filled)⟩

/-- A slash behind these segments is the one that the path has at its end, or still needs there. -/
theorem Segmented.toText_withoutSlash {parts : List String} (segmented : Segmented parts) :
    (Path.segments (withoutSlash parts)).toText ++ "/" =
      (Path.segments parts).toText ++ (Path.segments parts).missingSlash := by
  obtain ⟨front, last, rfl, apart⟩ := segmented.exists_snoc
  rw [Path.missingSlash_snoc front apart]
  by_cases empty : last = ""
  · simp [withoutSlash, empty, Path.toText_snoc]
  · simp [withoutSlash, empty]

theorem withTrailingSlash_eq {u : Url} {parts : List String} (path : u.path = .segments parts) :
    u.withTrailingSlash = { u with path := .segments (withoutSlash parts ++ [""]) } := by
  simp only [withTrailingSlash, path, withoutSlash]
  split
  · next empty =>
    obtain ⟨front, rfl⟩ := List.getLast?_eq_some_iff.mp empty
    rw [List.dropLast_concat, ← path]
  · rfl

/-- Once there is a slash at the end, the address stays as it is. -/
theorem withTrailingSlash_idem (u : Url) :
    u.withTrailingSlash.withTrailingSlash = u.withTrailingSlash := by
  cases path : u.path with
  | plain text => simp [withTrailingSlash, path]
  | segments parts =>
      by_cases slash : parts.getLast? = some "" <;> simp [withTrailingSlash, path, slash]

end Url

/-! ## The path of a step -/

/-- Segments that were split at slashes read as before. -/
theorem Url.Path.toText_splitChars (cs : List Char) :
    (Path.segments ((splitChars '/' cs).map String.ofList)).toText.toList = '/' :: cs := by
  induction cs with
  | nil => simp [splitChars, toText]
  | cons c rest ih =>
      rw [splitChars]
      split
      · next slash =>
        subst slash
        simpa [toText] using ih
      · split
        · next nothing => exact absurd nothing (splitChars_ne_nil _ _)
        · next first others parts =>
          rw [parts] at ih
          simpa [toText] using ih

/-- What is asked for below the base address: the token, the points, or the second listing. -/
theorem Step.path_cases (s : Step) :
    s = .login ∧ s.path = "dummyLogin" ∨ (s = .createPoint ∨ s = .listPoints) ∧ s.path = "pvz" ∨
      s = .listOptimized ∧ s.path = "pvz/optimized" := by
  cases s with
  | login => exact .inl ⟨rfl, rfl⟩
  | createPoint => exact .inr (.inl ⟨.inl rfl, rfl⟩)
  | listPoints => exact .inr (.inl ⟨.inr rfl, rfl⟩)
  | listOptimized => exact .inr (.inr ⟨rfl, rfl⟩)

theorem Step.path_relative (s : Step) : s.path.toList.head? ≠ some '/' := by
  rcases s.path_cases with ⟨-, path⟩ | ⟨-, path⟩ | ⟨-, path⟩ <;> rw [path] <;> decide

/-- A target without fault is a web address. -/
theorem TargetSettings.web_of_fine {t : TargetSettings} (fine : t.fault? = none) :
    t.baseUrl.scheme = "http" ∨ t.baseUrl.scheme = "https" := by
  simp only [fault?] at fine
  split at fine
  · cases fine
  · split at fine
    · cases fine
    · next other => exact Decidable.or_iff_not_not_and_not.mpr other

namespace HttpRequest

open Url (Path Segmented withoutSlash)

theorem toText_relativeSegments {path : String} (relative : path.toList.head? ≠ some '/') :
    (Path.segments (relativeSegments path)).toText = "/" ++ path := by
  have whole : path.toList.dropWhile (· = '/') = path.toList := by
    cases written : path.toList with
    | nil => rfl
    | cons c rest =>
        have other : c ≠ '/' := by simpa [written] using relative
        simp [other]
  apply String.toList_inj.mp
  rw [relativeSegments, whole, Path.toText_splitChars]
  simp

/-! ## Addresses below a base address -/

/-- A path is put behind the path of the base address, and takes the place of nothing but the query
and the fragment. -/
theorem address_eq {base : Url} {parts : List String} (segments : base.path = .segments parts)
    (path : String) :
    address base path =
      { base with
        path := .segments (withoutSlash parts ++ relativeSegments path)
        query := none
        fragment := none } := by
  rw [address, Url.withTrailingSlash_eq segments]
  simp only [Url.join, List.dropLast_concat]

theorem toText_address {base : Url} {parts : List String} (segments : base.path = .segments parts)
    (segmented : Segmented parts) {path : String} (relative : path.toList.head? ≠ some '/') :
    (address base path).path.toText = base.path.toText ++ base.path.missingSlash ++ path := by
  rw [address_eq segments, Path.toText_append, toText_relativeSegments relative,
    ← String.append_assoc, segmented.toText_withoutSlash, segments]

/-- The query of a step: only the listings have one. -/
def queryOf (settings : ScenarioSettings) : Step → Option String
  | .login | .createPoint => none
  | .listPoints | .listOptimized =>
    some ("page=" ++ toString settings.page ++ "&limit=" ++ toString settings.limit)

/-- The address of a request differs from that of its path in the query. -/
theorem withQuery_request (settings : ScenarioSettings) (a : Awaiting) {u : Url}
    (bare : u.query = none) :
    u.withQuery (a.request settings).query = { u with query := queryOf settings a.step } := by
  cases a with
  | login | createPoint =>
      have same : { u with query := none } = u := by rw [← bare]
      exact same.symm
  | listPoints | listOptimized =>
      have page : "page=" = "page" ++ "=" := by decide
      have limit : "&limit=" = "&" ++ "limit=" := by decide
      have size : "limit=" = "limit" ++ "=" := by decide
      simp [Url.withQuery, Awaiting.request, Request.list, queryOf, Awaiting.step]
      simp only [page, limit, size, String.append_assoc]

/-! ## What is sent for a step -/

/-- The address of the request of a step. -/
theorem url_of_step {base : Url} {parts : List String} (segments : base.path = .segments parts)
    (settings : ScenarioSettings) (a : Awaiting) :
    (address base (a.request settings).path).withQuery (a.request settings).query =
      { address base a.step.path with query := queryOf settings a.step } := by
  have path : (a.request settings).path = a.step.path := by cases a <;> rfl
  have bare : (address base a.step.path).query = none := by rw [address_eq segments]
  rw [path, withQuery_request settings a bare]

/-- For every web address that is accepted as a base address, and every step: a request is sent
unless its token cannot be. It goes to the scheme, the host and the port of the base address. Its
path is the whole path of the base address, a slash if there is none at the end, and the path of the
step: no segment of the base address is left out, and none comes twice. Only listings have a query,
which asks for the page and its size. The base address that is kept has that slash already, and
makes the same requests as it would without. -/
theorem requests_below_base (text : String) (t : TargetSettings)
    (read : Url.ofText? text = .ok t.baseUrl) (fine : t.fault? = none)
    (settings : ScenarioSettings) (a : Awaiting) :
    ((∃ sent, ofRequest? t.baseUrl (a.request settings) = some sent) ↔
        ((a.request settings).bearer.map credentials).all isHeaderText = true) ∧
      (∀ sent, ofRequest? t.baseUrl (a.request settings) = some sent →
        sent.url.scheme = t.baseUrl.scheme ∧
          (sent.url.authority = t.baseUrl.authority ∧ t.baseUrl.authority.isSome = true) ∧
          sent.url.path.toText =
            t.baseUrl.path.toText ++ t.baseUrl.path.missingSlash ++ a.step.path ∧
          (∃ parts, t.baseUrl.path = .segments parts ∧ sent.url.path =
            .segments (withoutSlash parts ++ relativeSegments a.step.path)) ∧
          sent.url.query = queryOf settings a.step ∧ sent.url.fragment = none) ∧
      t.baseUrl.withTrailingSlash.path.toText =
        t.baseUrl.path.toText ++ t.baseUrl.path.missingSlash ∧
      t.baseUrl.withTrailingSlash.withTrailingSlash = t.baseUrl.withTrailingSlash ∧
      ∀ r, ofRequest? t.baseUrl.withTrailingSlash r = ofRequest? t.baseUrl r := by
  have web := TargetSettings.web_of_fine fine
  obtain ⟨named, parts, segments, segmented⟩ := Url.ofText?_web read web
  refine ⟨?_, fun sent made => ?_, ?_, t.baseUrl.withTrailingSlash_idem, fun r => ?_⟩
  · simp only [ofRequest?]
    split
    · next sendable => exact ⟨fun _ => sendable, fun _ => ⟨_, rfl⟩⟩
    · next unsendable =>
      have never : ¬ ∃ sent, (none : Option HttpRequest) = some sent := by simp
      exact ⟨fun made => absurd made never, fun sendable => absurd sendable unsendable⟩
  · simp only [ofRequest?] at made
    split at made
    · have url : sent.url =
          { address t.baseUrl a.step.path with query := queryOf settings a.step } := by
        rw [← Option.some.inj made]
        exact url_of_step segments settings a
      have place := address_eq segments a.step.path
      have path := toText_address segments segmented a.step.path_relative
      rw [url]
      refine ⟨?_, ⟨?_, named⟩, path, ⟨parts, segments, ?_⟩, rfl, ?_⟩ <;> rw [place]
    · cases made
  · rw [Url.withTrailingSlash_eq segments, Path.toText_snoc, segmented.toText_withoutSlash,
      ← segments]
    exact String.append_empty
  · simp only [ofRequest?, address, Url.withTrailingSlash_idem]

/-- A target whose base address has an empty segment, a query and no slash at its end. -/
def nestedTarget : TargetSettings :=
  { baseUrl :=
      { scheme := "http"
        authority := some { user := none, host := .name "pvz.internal", port := some 9000 }
        path := .segments ["api", "", "v1"]
        query := some "key=1"
        fragment := none }
    requestTimeout := .ofSeconds 5 }

/-- The login, a new point and the second listing all go behind all three segments, and no query is
sent but that of the listing. -/
theorem requests_below_base_nested :
    ∃ login creation listing : HttpRequest,
      ofRequest? nestedTarget.baseUrl (Awaiting.request .defaults .login) = some login ∧
      ofRequest? nestedTarget.baseUrl (Awaiting.request .defaults (.createPoint "token")) =
        some creation ∧
      ofRequest? nestedTarget.baseUrl (Awaiting.request .defaults (.listOptimized "token" "1" 0)) =
        some listing ∧
      [login, creation, listing].map (·.url.path.toText) =
        ["/api//v1/dummyLogin", "/api//v1/pvz", "/api//v1/pvz/optimized"] ∧
      [login, creation, listing].map (·.url.query) = [none, none, some "page=1&limit=10"] := by
  have read : Url.ofText? "http://pvz.internal:9000/api//v1?key=1" = .ok nestedTarget.baseUrl := by
    have parsed : (Url.ofText? "http://pvz.internal:9000/api//v1?key=1").toOption =
        some nestedTarget.baseUrl := by decide +kernel
    cases outcome : Url.ofText? "http://pvz.internal:9000/api//v1?key=1" with
    | error => simp [outcome, Except.toOption] at parsed
    | ok u => simpa [outcome, Except.toOption] using parsed
  have base : nestedTarget.baseUrl.path.toText ++ nestedTarget.baseUrl.path.missingSlash =
      "/api//v1/" := by decide +kernel
  have sent (a : Awaiting)
      (sendable : (((a.request .defaults).bearer).map credentials).all isHeaderText = true) :
      ∃ sent, ofRequest? nestedTarget.baseUrl (a.request .defaults) = some sent ∧
        sent.url.path.toText = "/api//v1/" ++ a.step.path ∧
        sent.url.query = queryOf .defaults a.step := by
    obtain ⟨made, below, -⟩ := requests_below_base _ nestedTarget read rfl .defaults a
    obtain ⟨sent, made⟩ := made.mpr sendable
    obtain ⟨-, -, path, -, query, -⟩ := below sent made
    exact ⟨sent, made, base ▸ path, query⟩
  obtain ⟨login, madeLogin, loginPath, loginQuery⟩ := sent .login rfl
  obtain ⟨creation, madeCreation, creationPath, creationQuery⟩ :=
    sent (.createPoint "token") (by decide)
  obtain ⟨listing, madeListing, listingPath, listingQuery⟩ :=
    sent (.listOptimized "token" "1" 0) (by decide)
  refine ⟨login, creation, listing, madeLogin, madeCreation, madeListing, ?_, ?_⟩
  · simp only [List.map_cons, List.map_nil, loginPath, creationPath, listingPath]
    decide +kernel
  · simp only [List.map_cons, List.map_nil, loginQuery, creationQuery, listingQuery]
    decide +kernel

end HttpRequest

end LoadHarness
