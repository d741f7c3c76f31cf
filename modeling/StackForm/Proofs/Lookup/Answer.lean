import StackForm.Lookup.Answer
import StackForm.Proofs.Json.Path
import StackForm.Proofs.Json.Reader.Record
import StackForm.Proofs.Render.Template
import StackForm.Proofs.Text.Utf8
import Mathlib.Data.List.Destutter
import Mathlib.Data.List.Sort
import Mathlib.Data.String.Basic
import Mathlib.Tactic.Tauto

/-!
# Answers are canonical

An answer that lists subnets gives their identifiers in the order of their bytes, each of them once,
whatever else stands in it; so two answers that list the same subnets give the same result, in
whatever order and however often they list them.
-/

namespace StackForm.SubnetAnswer

open Json Json.Grammar Json.Reader

variable {answer answer' : String} {ids listed listed' : List String}

/-! ### What an answer lists -/

/-- A listed subnet and its identifier. -/
abbrev Subnet : Grammar String :=
  Record "SubnetId" Text none

/-- The subnets of an answer. -/
abbrev Subnets : Grammar (List String) :=
  ListOf Subnet

/-- The answer lists these identifiers, in this order, and nothing follows. -/
def Lists (answer : String) (listed : List String) : Prop :=
  ∃ rest, Record "Subnets" Subnets (some []) (Utf8.encode answer) listed rest ∧ trim rest = []

/-- The answer is an object that has no list of subnets. -/
def HasNoList (answer : String) : Prop :=
  ∃ rest, Object "Subnets" Subnets (Utf8.encode answer) none rest ∧ trim rest = []

lemma recognizes_listing : Recognizes listing.reader (Record "Subnets" Subnets (some [])) := by
  have hsubnet : Recognizes subnet.reader Subnet :=
    OneField.recognizes_reader recognizes_textValue isItem_text
  have hitem : IsItem Subnet := isItem_record isItem_text
  exact OneField.recognizes_reader (recognizes_listValue hsubnet hitem) (isItem_listOf hitem)

/-- The identifiers that are read are those that the answer lists. -/
lemma read_eq_ok_iff : read (Utf8.encode answer) = .ok listed ↔ Lists answer listed := by
  constructor
  · intro h
    rw [read] at h
    split at h
    · next c' hread =>
      cases h
      have honly : GivesOnly
          (do let ids ← listing.reader; finish; return ids : Reader (List String))
          (Utf8.encode answer) fun listed _ => Lists answer listed := by
        refine .bind ((recognizes_listing.sound _).mono fun listed rest hlisted => ?_)
        refine .bind ((recognizes_finish.sound rest).mono fun _ _ hend => ?_)
        exact .pure ⟨rest, hlisted, hend.1⟩
      exact honly (Cursor.start _) _ _ rfl hread
    · cases h
  · rintro ⟨rest, hlisted, hend⟩
    have hfinish : Reads finish rest () [] := recognizes_finish.complete ⟨hend, rfl⟩
    have hread : Reads (do let ids ← listing.reader; finish; return ids : Reader (List String))
        (Utf8.encode answer) listed [] :=
      (recognizes_listing.complete hlisted).bind (hfinish.bind (.pure _ _))
    obtain ⟨c', hc, -⟩ := hread (Cursor.start (Utf8.encode answer)) rfl
    rw [read, StateT.run, hc]

/-- An answer lists nothing if it is an object that has no list. -/
lemma HasNoList.lists (h : HasNoList answer) : Lists answer [] := by
  obtain ⟨rest, hobject, hend⟩ := h
  exact ⟨rest, .object hobject rfl, hend⟩

/-! ### Canonical lists -/

lemma mem_canonical {id : String} : id ∈ canonical ids ↔ id ∈ ids := by
  rw [canonical, KeyMap.mem_keys_ofList, Keyed.keys, List.map_map]
  simp

lemma pairwise_canonical (ids : List String) : (canonical ids).Pairwise (· < ·) :=
  List.pairwise_map.2 (KeyMap.ascending _)

/-- A list in ascending order is determined by what stands in it. -/
lemma eq_canonical_iff :
    ids = canonical listed ↔ ids.Pairwise (· < ·) ∧ ∀ id, id ∈ ids ↔ id ∈ listed := by
  constructor
  · rintro rfl
    exact ⟨pairwise_canonical listed, fun id => mem_canonical⟩
  · rintro ⟨hids, hmem⟩
    have hsame (id : String) : id ∈ ids ↔ id ∈ canonical listed :=
      (hmem id).trans mem_canonical.symm
    exact hids.eq_of_mem_iff (pairwise_canonical listed) hsame

/-- The canonical list is the sorted one without adjacent repetitions: equal texts are adjacent once
they are sorted. -/
theorem canonical_eq_destutter (ids : List String) :
    canonical ids = (ids.mergeSort fun a b => decide (a ≤ b)).destutter (· ≠ ·) := by
  have hsorted : (ids.mergeSort fun a b => decide (a ≤ b)).Pairwise (· ≤ ·) :=
    ids.pairwise_mergeSort' (· ≤ ·)
  rw [hsorted.destutter_eq_dedup, eq_comm, eq_canonical_iff]
  refine ⟨?_, fun id => by rw [List.mem_dedup, List.mem_mergeSort]⟩
  have hle := hsorted.sublist (List.dedup_sublist _)
  exact hle.imp₂ (fun _ _ => lt_of_le_of_ne) (List.nodup_dedup _)

lemma identifiers_eq_ok_iff : identifiers answer = .ok ids ↔
    ids.Pairwise (· < ·) ∧ ∃ listed, Lists answer listed ∧ ∀ id, id ∈ ids ↔ id ∈ listed := by
  constructor
  · intro h
    rw [identifiers] at h
    split at h
    · next listed hread =>
      cases h
      obtain ⟨hascending, hmem⟩ := eq_canonical_iff.1 (rfl : canonical listed = canonical listed)
      exact ⟨hascending, listed, read_eq_ok_iff.1 hread, hmem⟩
    · cases h
  · rintro ⟨hascending, listed, hlists, hmem⟩
    rw [identifiers, read_eq_ok_iff.2 hlists, eq_canonical_iff.2 ⟨hascending, hmem⟩]

/-- Answers are canonical. The identifiers of an answer ascend in the order of their bytes and are
those that it lists, so that answers which list the same identifiers give the same result; an object
without a list gives none. -/
theorem identifiers_canonical :
    (∀ answer ids, identifiers answer = .ok ids →
      ids.Pairwise (fun a b => Utf8.encode a < Utf8.encode b) ∧
        ∃ listed, Lists answer listed ∧ ∀ id, id ∈ ids ↔ id ∈ listed) ∧
    (∀ answer answer' listed listed', Lists answer listed → Lists answer' listed' →
      (∀ id, id ∈ listed ↔ id ∈ listed') →
        ∃ ids, identifiers answer = .ok ids ∧ identifiers answer' = .ok ids) ∧
    ∀ answer, HasNoList answer → identifiers answer = .ok [] := by
  refine ⟨?_, ?_, ?_⟩
  · intro answer ids h
    obtain ⟨hascending, hlisted⟩ := identifiers_eq_ok_iff.1 h
    exact ⟨hascending.imp Utf8.encode_lt_encode, hlisted⟩
  · intro answer answer' listed listed' hlists hlists' hsame
    refine ⟨canonical listed, ?_, ?_⟩
    · exact identifiers_eq_ok_iff.2
        ⟨pairwise_canonical listed, listed, hlists, fun id => mem_canonical⟩
    · exact identifiers_eq_ok_iff.2 ⟨pairwise_canonical listed, listed', hlists', fun id =>
        mem_canonical.trans (hsame id)⟩
  · intro answer h
    exact identifiers_eq_ok_iff.2 ⟨.nil, [], h.lists, fun id => Iff.rfl⟩

/-- The same subnets in another order, one of them twice, beside another member. -/
theorem identifiers_canonical_shuffled : ∃ ids,
    identifiers "\x7b\"Subnets\":[\x7b\"SubnetId\":\"b\"\x7d,\x7b\"SubnetId\":\"a\"\x7d]\x7d" =
        .ok ids ∧
      identifiers "\x7b\"Next\":1,\"Subnets\":[[\"a\"],\x7b\"SubnetId\":\"b\"\x7d,[\"a\"]]\x7d" =
        .ok ids :=
  identifiers_canonical.2.1 _ _ ["b", "a"] ["a", "b", "a"]
    (read_eq_ok_iff.1 (toOption_eq_some_iff.1 (by decide +kernel)))
    (read_eq_ok_iff.1 (toOption_eq_some_iff.1 (by decide +kernel)))
    (by
      intro id
      simp only [List.mem_cons, List.not_mem_nil, or_false]
      tauto)

/-- A list is read by position, so that an answer may list subnets without a member that is named
for them. -/
theorem identifiers_positional : ¬ ∀ answer doc ids,
    parse (Utf8.encode answer) = .ok doc → doc.get? "Subnets" = none →
      identifiers answer = .ok ids → ids = [] := by
  intro h
  have hids := h "[[\x7b\"SubnetId\": \"subnet-a\"\x7d]]"
    (.arr [.arr [.obj [("SubnetId", .str "subnet-a")]]]) ["subnet-a"] rfl rfl rfl
  cases hids

end StackForm.SubnetAnswer
