import DeviceRegistry.Http.Router
import DeviceRegistry.Proofs.Json.Written
import DeviceRegistry.Proofs.Message.RoundTrip

/-! How problems are rendered. The text tells the problem and nothing else, and there is one text for
it, however its facts came together. -/
namespace DeviceRegistry
open Bytes Json

/-- Of the values that were inserted under a key the last one is there. -/
theorem Table.get?_ofList (pairs : List (String × String)) (name : String) :
    (Table.ofList pairs).get? name = pairs.reverse.lookup name := by
  have added (t : Table String String) : (pairs.foldl (fun t m => t.insert m.1 m.2) t).get? name =
      (pairs.reverse.lookup name).or (t.get? name) := by
    induction pairs generalizing t with
    | nil => rfl
    | cons m pairs ih =>
      obtain ⟨key, value⟩ := m
      rw [List.foldl_cons, ih, List.reverse_cons, List.lookup_append, Option.or_assoc]
      congr 1
      by_cases same : name = key
      · rw [same, get?_insert_self]
        simp
      · have other : (name == key) = false := beq_eq_false_iff_ne.2 same
        rw [get?_insert_ne t value same]
        simp [List.lookup_cons, other]
  rw [ofList, added, get?_empty, Option.or_none]

theorem Table.isEmpty_ofList (pairs : List (String × String)) :
    (Table.ofList pairs).isEmpty = pairs.isEmpty := by
  rcases List.eq_nil_or_concat pairs with rfl | ⟨pairs, ⟨key, value⟩, rfl⟩
  · rfl
  · have last := get?_ofList (pairs ++ [(key, value)]) key
    rw [List.reverse_append, List.reverse_singleton, List.singleton_append, List.lookup_cons_self,
      get?_eq_some_iff] at last
    rw [List.concat_eq_append, Table.isEmpty, List.isEmpty_eq_false_iff.2 (List.ne_nil_of_mem last)]
    simp

namespace Problem

/-- A problem to which facts were added one after the other. -/
def withFacts (code : ErrorCode) (message : String) (pairs : List (String × String)) : Problem :=
  pairs.foldl (fun p m => p.withFact m.1 m.2) { code, message }

theorem withFacts_eq (code : ErrorCode) (message : String) (pairs : List (String × String)) :
    withFacts code message pairs = ⟨code, message, .ofList pairs⟩ := by
  have added (facts : Table String String) :
      pairs.foldl (fun p m => p.withFact m.1 m.2) ⟨code, message, facts⟩ =
        (⟨code, message, pairs.foldl (fun t m => t.insert m.1 m.2) facts⟩ : Problem) := by
    induction pairs generalizing facts with
    | nil => rfl
    | cons m pairs ih => exact ih _
  exact added .empty

theorem written (p : Problem) : Written p.toJson := by
  have facts : Written (.object (p.facts.entries.map fun m => (m.1, .text m.2))) := by
    refine written_object (List.forall_mem_map.2 fun m _ => ?_)
    exact written_text m.2
  apply written_object
  rw [List.forall_mem_append]
  refine ⟨?_, ?_⟩
  · simp only [List.forall_mem_cons]
    exact ⟨written_text _, written_text _, List.forall_mem_nil _⟩
  · split
    · exact List.forall_mem_nil _
    · exact List.forall_mem_singleton.2 facts

/-- A problem that facts were added to is rendered as one object of JSON with its code, its message and,
if there are any, its facts: each name once, in ascending order of bytes, with the value that was added
last. It is read as the same problem. Problems are rendered alike if and only if they have the same
code, the same message and the same facts, in whatever order these were added. -/
theorem rendered_canonically (code code' : ErrorCode) (message message' : String)
    (pairs pairs' : List (String × String)) :
    let body := (Http.problemResponse (withFacts code message pairs)).body
    let body' := (Http.problemResponse (withFacts code' message' pairs')).body
    (∃ p, Json.read shape.read body = .ok p ∧ p.code = code ∧ p.message = message ∧
      ∀ name, p.facts.get? name = pairs.reverse.lookup name) ∧
    (∃ facts : List (String × String),
      Carries body (.object ([("code", .text code.name), ("msg", .text message)] ++
        if pairs = [] then [] else [("meta", .object (facts.map fun m => (m.1, .text m.2)))])) ∧
      facts.Pairwise (fun m m' => ofText m.1 < ofText m'.1) ∧
      ∀ name value, (name, value) ∈ facts ↔ pairs.reverse.lookup name = some value) ∧
    (body = body' ↔ code = code' ∧ message = message' ∧
      ∀ name, pairs.reverse.lookup name = pairs'.reverse.lookup name) := by
  intro body body'
  have reads (code : ErrorCode) (message : String) (pairs : List (String × String)) :
      Json.read shape.read (Http.problemResponse (withFacts code message pairs)).body =
        .ok ⟨code, message, .ofList pairs⟩ := by
    rw [withFacts_eq]
    exact (reads _).read
  refine ⟨⟨_, reads code message pairs, rfl, rfl, Table.get?_ofList pairs⟩, ?_, ?_⟩
  · refine ⟨(Table.ofList pairs).entries, ?_, ?_, ?_⟩
    · have carried := (withFacts code message pairs).written.carries
      refine (congrArg (Carries body) ?_).mp carried
      rw [withFacts_eq, toJson, Table.isEmpty_ofList]
      cases pairs <;> rfl
    · exact (Table.ofList pairs).ascending.imp fun order =>
        ofText_lt (compareOfLessAndEq_eq_lt.1 order)
    · intro name value
      rw [← Table.get?_ofList, Table.get?_eq_some_iff]
  · constructor
    · intro same
      have read := (reads code message pairs).symm.trans
        ((congrArg (Json.read shape.read) same).trans (reads code' message' pairs'))
      obtain ⟨rfl, rfl, facts⟩ := Problem.mk.inj (Except.ok.inj read)
      refine ⟨rfl, rfl, fun name => ?_⟩
      rw [← Table.get?_ofList, facts, Table.get?_ofList]
    · rintro ⟨rfl, rfl, same⟩
      have facts : Table.ofList pairs = Table.ofList pairs' := by
        apply Table.ext_get?
        intro name
        rw [Table.get?_ofList, same, Table.get?_ofList]
      show (Http.problemResponse _).body = (Http.problemResponse _).body
      rw [withFacts_eq, withFacts_eq, facts]

end Problem

end DeviceRegistry
