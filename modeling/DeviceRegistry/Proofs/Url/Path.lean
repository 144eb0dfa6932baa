import DeviceRegistry.Proofs.Stateful
import DeviceRegistry.Proofs.Url.Percent
import DeviceRegistry.Url.Parser
import DeviceRegistry.Url.Relative

/-! Paths as URLs hold them. Whatever was written, a path that was read consists of segments in
their one form, and its text is read as the same path again. -/
namespace DeviceRegistry.Url

variable {kind : SchemeKind}

/-- A segment in the form in which paths hold it: nothing in it is left to encode, it holds no
slash, and it does not stand for a directory. -/
structure IsSettled (kind : SchemeKind) (segment : String) : Prop where
  stands : ∀ c ∈ segment.toList, Percent.Stands Percent.pathSet c
  unslashed : ∀ c ∈ segment.toList, kind.isSlash c = false
  named : isDoubleDot segment.toList = false ∧ isSingleDot segment.toList = false

instance (kind : SchemeKind) (segment : String) : Decidable (IsSettled kind segment) :=
  decidable_of_iff
    ((segment.toList.all fun c => Percent.Stands Percent.pathSet c ∧ kind.isSlash c = false) ∧
      isDoubleDot segment.toList = false ∧ isSingleDot segment.toList = false)
    ⟨fun ⟨each, named⟩ =>
      ⟨fun c listed => (of_decide_eq_true (List.all_eq_true.1 each c listed)).1,
        fun c listed => (of_decide_eq_true (List.all_eq_true.1 each c listed)).2, named⟩,
    fun h => ⟨List.all_eq_true.2 fun c listed =>
      decide_eq_true ⟨h.stands c listed, h.unslashed c listed⟩, h.named⟩⟩

theorem isSettled_empty : IsSettled kind "" := ⟨nofun, nofun, by decide, by decide⟩

theorem dotTarget?_eq_none {segment : List Char} {done : List String} :
    dotTarget? segment done = none ↔ isDoubleDot segment = false ∧ isSingleDot segment = false := by
  rw [dotTarget?]
  cases isDoubleDot segment <;> cases isSingleDot segment <;> simp

/-- However a dot segment is written, its percent signs stand in front of encoded dots. -/
theorem encodesDots_of_dots {segment : List Char}
    (h : isDoubleDot segment = true ∨ isSingleDot segment = true) :
    Percent.encodesDots (segment.map Char.toLower) = true := by
  have spelled {word : String} (same : String.ofList (segment.map Char.toLower) = word) :
      segment.map Char.toLower = word.toList := by
    rw [← same, String.toList_ofList]
  simp only [isDoubleDot, isSingleDot, Bool.or_eq_true, beq_iff_eq] at h
  rcases h with (((same | same) | same) | same) | (same | same) <;>
    (rw [spelled same]; decide)

/-- Encoding does not turn a name into a dot segment. -/
theorem named_encode {raw : List Char} (named : isDoubleDot raw = false ∧ isSingleDot raw = false) :
    isDoubleDot (Percent.encode Percent.pathSet raw) = false ∧
      isSingleDot (Percent.encode Percent.pathSet raw) = false := by
  have dot : Percent.Stands Percent.pathSet '.' := by decide
  have same (dots : isDoubleDot (Percent.encode Percent.pathSet raw) = true ∨
      isSingleDot (Percent.encode Percent.pathSet raw) = true) :
      Percent.encode Percent.pathSet raw = raw :=
    Percent.encode_of_encodesDots dot (encodesDots_of_dots dots)
  constructor <;> refine Bool.eq_false_iff.2 fun dots => ?_
  · rw [same (.inl dots), named.1] at dots
    cases dots
  · rw [same (.inr dots), named.2] at dots
    cases dots

theorem marks_unslashed : ∀ c ∈ Percent.marks, kind.isSlash c = false := by
  have none : Percent.marks.any kind.isSlash = false := by cases kind <;> decide
  simpa using none

theorem isSettled_encode {raw : List Char} (unslashed : ∀ c ∈ raw, kind.isSlash c = false)
    (named : isDoubleDot raw = false ∧ isSingleDot raw = false) :
    IsSettled kind (Percent.encodeText Percent.pathSet raw) := by
  constructor <;> rw [Percent.encodeText, String.toList_ofList]
  · exact fun c => Percent.stands_of_mem_encode
  · intro c written
    rcases Percent.mem_encode written with ⟨listed, -⟩ | mark
    · exact unslashed c listed
    · exact marks_unslashed c mark
  · exact named_encode named

theorem IsSettled.encodeText {segment : String} (h : IsSettled kind segment) :
    Percent.encodeText Percent.pathSet segment.toList = segment := by
  rw [Percent.encodeText, Percent.encode_stands h.stands, String.ofList_toList]

theorem mem_parentSegments {done : List String} {segment : String}
    (h : segment ∈ parentSegments done) : segment ∈ done := by
  cases done with
  | nil => exact h
  | cons a rest =>
    rw [parentSegments] at h
    split at h
    · exact h
    · exact List.mem_cons_of_mem a h

theorem mem_dotTarget? {raw : List Char} {done target : List String} {segment : String}
    (led : dotTarget? raw done = some target) (h : segment ∈ target) : segment ∈ done := by
  rw [dotTarget?] at led
  split at led
  · cases led
    exact mem_parentSegments h
  · split at led
    · cases led
      exact h
    · cases led

/-- Segments are settled when they are added to a path. -/
theorem addSegments_settled {parts : List (List Char)} {done : List String}
    (unslashed : ∀ part ∈ parts, ∀ c ∈ part, kind.isSlash c = false)
    (settled : ∀ segment ∈ done, IsSettled kind segment) :
    ∀ segment ∈ addSegments parts done, IsSettled kind segment := by
  induction parts generalizing done with
  | nil => exact settled
  | cons part rest ih =>
    obtain ⟨first, later⟩ := List.forall_mem_cons.1 unslashed
    rw [addSegments]
    split
    next target led =>
      have kept : ∀ segment ∈ target, IsSettled kind segment :=
        fun segment listed => settled segment (mem_dotTarget? led listed)
      apply ih later
      split
      · exact List.forall_mem_cons.2 ⟨isSettled_empty, kept⟩
      · exact kept
    next unled =>
      exact ih later (List.forall_mem_cons.2
        ⟨isSettled_encode first (dotTarget?_eq_none.1 unled), settled⟩)

/-- Settled segments are added as they are. -/
theorem addSegments_of_settled {segments : List String} (done : List String)
    (settled : ∀ segment ∈ segments, IsSettled kind segment) :
    addSegments (segments.map String.toList) done = segments.reverse ++ done := by
  induction segments generalizing done with
  | nil => rfl
  | cons segment rest ih =>
    obtain ⟨first, later⟩ := List.forall_mem_cons.1 settled
    rw [List.map_cons, addSegments, dotTarget?_eq_none.2 first.named]
    simp only [first.encodeText, ih _ later, List.reverse_cons, List.append_assoc,
      List.singleton_append]

theorem splitOnP_unslashed (p : Char → Bool) (cs : List Char) :
    ∀ part ∈ cs.splitOnP p, ∀ c ∈ part, p c = false := by
  induction cs with
  | nil => simp
  | cons c rest ih =>
    rw [List.splitOnP_cons_eq_if_modifyHead]
    split
    · exact List.forall_mem_cons.2 ⟨nofun, ih⟩
    next other =>
      cases parts : rest.splitOnP p with
      | nil => exact absurd parts (List.splitOnP_ne_nil p rest)
      | cons part more =>
        rw [parts] at ih
        obtain ⟨first, later⟩ := List.forall_mem_cons.1 ih
        exact List.forall_mem_cons.2
          ⟨List.forall_mem_cons.2 ⟨Bool.eq_false_iff.2 other, first⟩, later⟩

theorem segmentsOf_settled (cs : List Char) :
    ∀ segment ∈ segmentsOf kind cs, IsSettled kind segment := by
  intro segment listed
  rw [segmentsOf, List.mem_reverse] at listed
  exact addSegments_settled (splitOnP_unslashed _ cs) (List.forall_mem_nil _) segment listed

/-- A path behind an authority is settled. -/
theorem exists_pathOf (cs : List Char) :
    ∃ list, pathOf kind cs = .segments list ∧ ∀ segment ∈ list, IsSettled kind segment := by
  cases cs with
  | nil =>
    refine ⟨_, rfl, ?_⟩
    split
    · exact List.forall_mem_singleton.2 isSettled_empty
    · exact List.forall_mem_nil _
  | cons c rest => exact ⟨_, rfl, segmentsOf_settled _⟩

/-- The segments with a slash in front of each. -/
theorem toList_text (list : List String) :
    (UrlPath.segments list).text.toList = list.flatMap fun segment => '/' :: segment.toList := by
  rw [UrlPath.text, String.toList_join, List.flatMap_map]
  simp only [String.toList_append]
  rfl

theorem isSlash_slash : kind.isSlash '/' = true := by
  cases kind <;> rfl

theorem splitOnP_text {segment : String} {rest : List String}
    (settled : ∀ s ∈ segment :: rest, IsSettled kind s) :
    (segment.toList ++ rest.flatMap fun s => '/' :: s.toList).splitOnP kind.isSlash =
      (segment :: rest).map String.toList := by
  induction rest generalizing segment with
  | nil =>
    have unslashed := (settled _ List.mem_cons_self).unslashed
    rw [List.flatMap_nil, List.append_nil, List.splitOnP_eq_singleton unslashed]
    rfl
  | cons next rest ih =>
    obtain ⟨first, later⟩ := List.forall_mem_cons.1 settled
    rw [List.flatMap_cons, List.cons_append,
      List.splitOnP_append_cons_of_forall_mem first.unslashed '/' isSlash_slash, ih later]
    rfl

/-- The text of a settled path is read as that path. -/
theorem pathOf_text {segment : String} {rest : List String}
    (settled : ∀ s ∈ segment :: rest, IsSettled kind s) :
    pathOf kind (UrlPath.segments (segment :: rest)).text.toList = .segments (segment :: rest) := by
  rw [toList_text, List.flatMap_cons, List.cons_append, pathOf, if_pos isSlash_slash, segmentsOf,
    splitOnP_text settled, addSegments_of_settled [] settled, List.append_nil, List.reverse_reverse]

/-- A slash at the end of a path stands in front of an empty segment. -/
theorem getLast?_text {list : List String} (settled : ∀ segment ∈ list, IsSettled kind segment) :
    (UrlPath.segments list).text.toList.getLast? = some '/' ↔ list.getLast? = some "" := by
  rcases List.eq_nil_or_concat list with rfl | ⟨front, last, rfl⟩
  · simp [toList_text]
  · rw [List.concat_eq_append] at settled ⊢
    rw [toList_text, List.flatMap_append, List.flatMap_singleton, List.getLast?_concat,
      List.getLast?_append, Option.some.injEq]
    cases chars : last.toList with
    | nil => simp [String.toList_eq_nil_iff.1 chars]
    | cons c rest =>
      have other : last ≠ "" := by
        rintro rfl
        cases chars
      have inside : (c :: rest).getLast (List.cons_ne_nil c rest) ≠ '/' := by
        intro slash
        have listed : '/' ∈ last.toList := by
          rw [chars, ← slash]
          exact List.getLast_mem _
        have unslashed := (settled last (by simp)).unslashed _ listed
        rw [isSlash_slash] at unslashed
        cases unslashed
      simp [List.getLast?_eq_some_getLast, inside, other]

/-- A break is encoded, so no path holds one. -/
theorem withoutBreaks_text {list : List String} (settled : ∀ s ∈ list, IsSettled kind s) :
    withoutBreaks (UrlPath.segments list).text.toList = (UrlPath.segments list).text.toList := by
  rw [withoutBreaks, List.filter_eq_self, toList_text]
  intro c listed
  obtain ⟨segment, member, part⟩ := List.mem_flatMap.1 listed
  have above : 0x20 ≤ c.toNat := by
    rcases List.mem_cons.1 part with rfl | inside
    · decide
    · exact ((settled segment member).stands c inside).1
  simp only [isBreak, Bool.not_eq_true', Bool.or_eq_false_iff, beq_eq_false_iff_ne]
  refine ⟨⟨?_, ?_⟩, ?_⟩ <;> rintro rfl <;> exact absurd above (by decide)

/-- A slash behind the text of a path adds an empty segment. -/
theorem settledPath_slash {list : List String}
    (settled : ∀ segment ∈ list, IsSettled .web segment) :
    settledPath .web ((UrlPath.segments list).text ++ "/") = .segments (list ++ [""]) := by
  have settled : ∀ segment ∈ list ++ [""], IsSettled .web segment := by
    simp only [List.forall_mem_append, List.forall_mem_singleton]
    exact ⟨settled, isSettled_empty⟩
  have added : ((UrlPath.segments list).text ++ "/").toList =
      (UrlPath.segments (list ++ [""])).text.toList := by
    rw [String.toList_append, toList_text, toList_text, List.flatMap_append]
    rfl
  obtain ⟨first, rest, same⟩ := List.exists_cons_of_ne_nil (List.append_ne_nil_of_right_ne_nil list
    (List.cons_ne_nil "" []))
  rw [settledPath, added, withoutBreaks_text settled]
  · rw [same] at settled ⊢
    exact pathOf_text settled
  · exact nofun

theorem withAuthority_ok {scheme : String} {cs : List Char} {u : Url}
    (h : withAuthority scheme kind cs = .ok u) :
    u.scheme = scheme ∧ u.authority.isSome = true ∧ ∃ path, u.path = pathOf kind path := by
  rw [withAuthority] at h
  obtain ⟨⟨authority, left⟩, -, made⟩ := except_bind_eq_ok h
  obtain rfl := Except.ok.inj made
  exact ⟨rfl, rfl, _, rfl⟩

theorem ofFile_scheme {cs : List Char} {u : Url} (h : ofFile cs = .ok u) : u.scheme = "file" := by
  rw [ofFile] at h
  obtain ⟨⟨host, path⟩, -, made⟩ := except_bind_eq_ok h
  obtain rfl := Except.ok.inj made
  rfl

/-- What is read as a URL of the web has an authority and a settled path. -/
theorem parse_web {s : String} {u : Url} (parsed : parse s = .ok u)
    (web : SchemeKind.of u.scheme = .web) :
    u.authority.isSome = true ∧
      ∃ list, u.path = .segments list ∧ ∀ segment ∈ list, IsSettled .web segment := by
  rw [parse] at parsed
  split at parsed
  · cases parsed
  · next scheme rest _ =>
    split at parsed
    · rw [ofFile_scheme parsed] at web
      exact absurd web (by decide)
    · obtain ⟨-, held, path, same⟩ := withAuthority_ok parsed
      exact ⟨held, same ▸ exists_pathOf path⟩
    · next other =>
      -- the schemes of the web are never read by this branch, as it keeps the scheme
      have named : u.scheme = scheme := by
        split at parsed
        · exact (withAuthority_ok parsed).1
        · cases parsed
          rfl
      rw [named, other] at web
      cases web

end DeviceRegistry.Url
