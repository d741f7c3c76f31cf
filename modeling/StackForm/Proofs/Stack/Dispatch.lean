import StackForm.Proofs.Cluster.Synonym
import StackForm.Proofs.KeyMap

/-!
# Loading dispatches on the last registration

Kinds are registered one after the other, on top of none or of the builtin ones, and the last
registration of a kind counts. A configuration either asks for a kind or is refused before any kind
is looked up. What asks for a kind is read onto the stack of that kind and validated; which other
kinds are known matters only where this one is not. The stacks may be of any variants.
-/

namespace StackForm

/-! ### Asking for a kind -/

namespace Json

/-- The document is an object that names the kind. -/
structure AsksFor (doc : Json) (kind : String) : Prop where
  named : doc.get? "kind" = some (.str kind)
  nonempty : kind ≠ ""

/-- The document asks for no kind, and the error says why. -/
inductive AsksForNone (doc : Json) : StackError → Prop where
  | notMapping : doc.isObject = false → AsksForNone doc (.malformed .notMapping)
  | missing : doc.isObject = true → doc.get? "kind" = none → AsksForNone doc .missingKind
  | null : doc.get? "kind" = some .null → AsksForNone doc .missingKind
  | empty : doc.get? "kind" = some (.str "") → AsksForNone doc .missingKind
  | mistyped {v : Json} : doc.get? "kind" = some v → v.isNull = false → v.isString = false →
      AsksForNone doc (.schemaMismatch "kind" "string")

variable {doc : Json} {kind : String} {e : StackError}

lemma asksFor_or_asksForNone (doc : Json) :
    (∃ kind, doc.AsksFor kind) ∨ ∃ e, doc.AsksForNone e := by
  cases hobj : doc.isObject with
  | false => exact .inr ⟨_, .notMapping hobj⟩
  | true =>
    cases hget : doc.get? "kind" with
    | none => exact .inr ⟨_, .missing hobj hget⟩
    | some v =>
      cases v with
      | null => exact .inr ⟨_, .null hget⟩
      | str kind =>
        by_cases hempty : kind = ""
        · exact .inr ⟨_, .empty (hempty ▸ hget)⟩
        · exact .inl ⟨kind, hget, hempty⟩
      | _ => exact .inr ⟨_, .mistyped hget rfl rfl⟩

/-- The kind of an object is read from one member. -/
lemma kindOf_of_isObject (hobj : doc.isObject = true) :
    kindOf doc = match doc.get? "kind" with
      | none => .error .missingKind
      | some .null => .error .missingKind
      | some (.str kind) => if kind.isEmpty then .error .missingKind else .ok kind
      | some _ => .error (.schemaMismatch "kind" "string") := by
  cases doc with
  | obj members => rfl
  | _ => cases hobj

lemma AsksFor.kindOf (h : doc.AsksFor kind) : kindOf doc = .ok kind := by
  rw [kindOf_of_isObject (isObject_of_get? h.named), h.named]
  exact if_neg (by simpa using h.nonempty)

lemma AsksForNone.kindOf (h : doc.AsksForNone e) : kindOf doc = .error e := by
  cases h with
  | notMapping hobj =>
    cases doc with
    | obj members => cases hobj
    | _ => rfl
  | missing hobj hget => rw [kindOf_of_isObject hobj, hget]
  | null hget => rw [kindOf_of_isObject (isObject_of_get? hget), hget]
  | empty hget =>
    rw [kindOf_of_isObject (isObject_of_get? hget), hget]
    rfl
  | @mistyped v hget hnull htext =>
    rw [kindOf_of_isObject (isObject_of_get? hget), hget]
    cases v with
    | null => cases hnull
    | str s => cases htext
    | _ => rfl

end Json

/-- The configuration is refused before any kind is looked up. -/
inductive Format.Refuses (format : Format) (bytes : List UInt8) : StackError → Prop where
  | unreadable {e : StackError} : format.parse bytes = .error e → Refuses format bytes e
  | asksForNone {doc : Json} {e : StackError} : format.parse bytes = .ok doc → doc.AsksForNone e →
      Refuses format bytes e

/-- A configuration asks for a kind or is refused. -/
lemma Format.asks_or_refuses (format : Format) (bytes : List UInt8) :
    (∃ doc kind, format.parse bytes = .ok doc ∧ doc.AsksFor kind) ∨
      ∃ e, format.Refuses bytes e := by
  cases hparse : format.parse bytes with
  | error e => exact .inr ⟨e, .unreadable hparse⟩
  | ok doc =>
    rcases doc.asksFor_or_asksForNone with ⟨kind, hkind⟩ | ⟨e, hnone⟩
    · exact .inl ⟨doc, kind, rfl, hkind⟩
    · exact .inr ⟨e, .asksForNone hparse hnone⟩

/-! ### Errors about other things than the kind -/

namespace StackError

/-- The error is another one than that a kind is not known. -/
def KindKnown : StackError → Prop
  | .unknownKind .. => False
  | _ => True

lemma kindKnown_ofRule (e : RuleError) : (ofRule e).KindKnown := by
  cases e <;> trivial

end StackError

open StackError

lemma Json.AsksForNone.kindKnown {doc : Json} {e : StackError} (h : doc.AsksForNone e) :
    e.KindKnown := by
  cases h <;> trivial

lemma Format.kindKnown_of_parse (format : Format) (bytes : List UInt8) :
    FailsWith KindKnown (format.parse bytes) := by
  cases format with
  | json => exact .mapError (fun _ => trivial) _
  | yaml => exact .mapError (fun _ => trivial) _

lemma Format.Refuses.kindKnown {format : Format} {bytes : List UInt8} {e : StackError}
    (h : format.Refuses bytes e) : e.KindKnown := by
  cases h with
  | unreadable hparse => exact format.kindKnown_of_parse bytes e hparse
  | asksForNone _ hnone => exact hnone.kindKnown

namespace Cluster

lemma kindKnown_of_decode (c : Cluster) (doc : Json) : FailsWith KindKnown (c.decode doc) := by
  refine .bind ?_ fun n => ?_
  · rw [currentSpelling_eq]
    split
    · exact .error trivial
    · exact .ok _
  · cases constraints.schemaCheck n with
    | error e => exact .error (kindKnown_ofRule e)
    | ok u =>
      show FailsWith KindKnown (decodeOnto c n)
      rw [decodeOnto]
      split
      · exact .ok _
      · exact .error trivial

lemma kindKnown_of_validate (c : Cluster) : FailsWith KindKnown c.validate := by
  intro e he
  have hreported := c.reported_validate
  rw [he] at hreported
  obtain ⟨k, -, detail, rfl⟩ := hreported.exists_of_error
  trivial

end Cluster

/-- The steps of the variants fail for other reasons than that a kind is not known, which only
looking up a kind finds. Without this promise such a failure could not be told from theirs. -/
structure StackVariant.LeavesKinds (ε : Type) [StackVariant ε] : Prop where
  decode : ∀ (s : ε) (doc : Json), FailsWith KindKnown (StackVariant.decode s doc)
  validate : ∀ s : ε, FailsWith KindKnown (StackVariant.validate s)

/-- Without other variants than clusters nothing has to be promised. -/
lemma StackVariant.leavesKinds_empty : LeavesKinds Empty :=
  ⟨nofun, nofun⟩

namespace Stack

variable {ε : Type} [StackVariant ε]

/-- The valid stack that a document describes, read onto the given one. -/
def load (initial : Stack ε) (doc : Json) : Except StackError (Stack ε) := do
  let stack ← initial.decode doc
  stack.validate
  return stack

lemma kindKnown_of_decode (h : StackVariant.LeavesKinds ε) (s : Stack ε) (doc : Json) :
    FailsWith KindKnown (s.decode doc) := by
  cases s with
  | cluster c => exact .map (c.kindKnown_of_decode doc) _
  | foreign s => exact .map (h.decode s doc) _

lemma kindKnown_of_validate (h : StackVariant.LeavesKinds ε) (s : Stack ε) :
    FailsWith KindKnown s.validate := by
  cases s with
  | cluster c => exact c.kindKnown_of_validate
  | foreign s => exact h.validate s

lemma kindKnown_of_load (h : StackVariant.LeavesKinds ε) (initial : Stack ε) (doc : Json) :
    FailsWith KindKnown (initial.load doc) :=
  .bind (initial.kindKnown_of_decode h doc) fun stack =>
    .bind (stack.kindKnown_of_validate h) fun _ => .ok _

end Stack

/-! ### Notes -/

/-- A stack that is no cluster: a text, which must not be empty. -/
structure Note where
  text : String
  deriving DecidableEq

namespace Note

/-- The note with the text of a document, if it has one. -/
def decode (note : Note) (doc : Json) : Except StackError Note :=
  match doc.get? "text" with
  | none => .ok note
  | some (.str text) => .ok ⟨text⟩
  | some _ => .error (.malformed (.foreign "a note is a text"))

def validate (note : Note) : Except StackError Unit :=
  if note.text.isEmpty then .error (.ofRule (.violation "text" "required")) else .ok ()

instance : StackVariant Note where
  kind _ := "Note"
  region? _ := none
  decode := decode
  validate := validate
  prepare _ _ ctx := return ctx
  render note _ := .ok note.text

lemma leavesKinds : StackVariant.LeavesKinds Note where
  decode note doc := by
    show FailsWith KindKnown (note.decode doc)
    rw [decode]
    split
    · exact .ok _
    · exact .ok _
    · exact .error trivial
  validate note := by
    show FailsWith KindKnown note.validate
    rw [validate]
    split
    · exact .error (kindKnown_ofRule _)
    · exact .ok _

end Note

/-! ### Registering -/

namespace StackKinds

variable {ε : Type}

/-- The kinds can be reached by registering, and these are the registrations, the latest first. The
builtin kinds come from one registration. -/
inductive Built : StackKinds ε → List (String × Stack ε) → Prop where
  | empty : Built .empty []
  | builtin : Built .builtin [("Cluster", .cluster .initial)]
  | register {kinds : StackKinds ε} {history : List (String × Stack ε)} (kind : String)
      (stack : Stack ε) :
      Built kinds history → Built (kinds.register kind stack) ((kind, stack) :: history)

variable {kinds : StackKinds ε} {history : List (String × Stack ε)} {bytes : List UInt8}
  {format : Format} {doc : Json} {kind : String} {stack : Stack ε}

lemma get?_register (kinds : StackKinds ε) (kind other : String) (stack : Stack ε) :
    (kinds.register kind stack).initial.get? other =
      if other = kind then some stack else kinds.initial.get? other :=
  kinds.initial.get?_insert kind other stack

/-- The last registration of a kind counts. -/
lemma Built.get?_initial (h : Built kinds history) (kind : String) :
    kinds.initial.get? kind = history.lookup kind := by
  -- The latest registration stands first in the history, so that look-up meets it before any other.
  induction h with
  | empty => rfl
  | builtin => exact (get?_register .empty _ _ _).trans (Keyed.lookup_cons _ _ _ _).symm
  | register other stack _ ih => rw [get?_register, ih, Keyed.lookup_cons]

lemma Built.mem_names_iff (h : Built kinds history) :
    kind ∈ kinds.names ↔ ∃ stack, (kind, stack) ∈ history := by
  rw [names, KeyMap.mem_keys_iff, KeyMap.contains, h.get?_initial, ← Keyed.mem_keys_iff, Keyed.keys]
  simp

lemma names_ascending (kinds : StackKinds ε) : kinds.names.Pairwise (· < ·) :=
  List.pairwise_map.2 kinds.initial.ascending

/-! ### Loading -/

variable [StackVariant ε]

lemma load_of_asksFor (kinds : StackKinds ε) (hparse : format.parse bytes = .ok doc)
    (hkind : doc.AsksFor kind) :
    kinds.load bytes format = kinds.construct kind >>= (Stack.load · doc) := by
  rw [StackKinds.load, kinds.decodeBytes_of_parse hparse, decode, hkind.kindOf]
  show (kinds.construct kind >>= (Stack.decode · doc)) >>= _ = _
  exact bind_assoc _ _ _

lemma load_of_refuses {e : StackError} (kinds : StackKinds ε) (h : format.Refuses bytes e) :
    kinds.load bytes format = .error e := by
  cases h with
  | unreadable hparse =>
    rw [StackKinds.load, decodeBytes, hparse]
    rfl
  | asksForNone hparse hnone =>
    rw [StackKinds.load, kinds.decodeBytes_of_parse hparse, decode, hnone.kindOf]
    rfl

lemma Built.load_of_lookup (h : Built kinds history) (hparse : format.parse bytes = .ok doc)
    (hkind : doc.AsksFor kind) (hlast : history.lookup kind = some stack) :
    kinds.load bytes format = stack.load doc := by
  rw [kinds.load_of_asksFor hparse hkind, construct, h.get?_initial, hlast]
  rfl

lemma Built.load_of_lookup_eq_none (h : Built kinds history)
    (hparse : format.parse bytes = .ok doc) (hkind : doc.AsksFor kind)
    (hnone : history.lookup kind = none) :
    kinds.load bytes format = .error (.unknownKind kind kinds.names) := by
  rw [kinds.load_of_asksFor hparse hkind, construct, h.get?_initial, hnone]
  rfl

/-- A kind is not known if it is asked for and was never registered. -/
lemma Built.load_eq_unknownKind_iff (hleaves : StackVariant.LeavesKinds ε) (h : Built kinds history)
    {registered : List String} :
    kinds.load bytes format = .error (.unknownKind kind registered) ↔
      (∃ doc, format.parse bytes = .ok doc ∧ doc.AsksFor kind) ∧
        (∀ stack, (kind, stack) ∉ history) ∧ registered = kinds.names := by
  constructor
  · -- Neither a refusal nor what comes after the look-up can be mistaken for an unknown kind.
    intro hload
    rcases format.asks_or_refuses bytes with ⟨doc, other, hparse, hkind⟩ | ⟨e, hrefuses⟩
    · cases hlast : history.lookup other with
      | some stack =>
        rw [h.load_of_lookup hparse hkind hlast] at hload
        exact (stack.kindKnown_of_load hleaves doc _ hload).elim
      | none =>
        rw [h.load_of_lookup_eq_none hparse hkind hlast] at hload
        cases hload
        exact ⟨⟨doc, hparse, hkind⟩, Keyed.lookup_eq_none_iff.1 hlast, rfl⟩
    · rw [kinds.load_of_refuses hrefuses] at hload
      cases hload
      exact hrefuses.kindKnown.elim
  · rintro ⟨⟨doc, hparse, hkind⟩, hnever, rfl⟩
    exact h.load_of_lookup_eq_none hparse hkind (Keyed.lookup_eq_none_iff.2 hnever)

/-- Loading dispatches on the last registration and on nothing else, whatever variants of stacks
there are. The names of the kinds ascend and are those that were registered. Where a kind is asked
for that was never registered, loading fails for an unknown kind and lists the names; if the
variants leave that error alone, it fails so nowhere else. What asks for a registered kind is read
onto the stack that was registered last for it, as with any other kinds whose last registration of
this one is the same. What asks for no kind is refused alike by all kinds. -/
theorem load_dispatches (ε : Type) [StackVariant ε] :
    (∀ (kinds : StackKinds ε) history, Built kinds history → kinds.names.Pairwise (· < ·) ∧
      ∀ kind, kind ∈ kinds.names ↔ ∃ stack, (kind, stack) ∈ history) ∧
    (∀ (kinds : StackKinds ε) history, Built kinds history → ∀ bytes format doc kind,
      format.parse bytes = .ok doc → doc.AsksFor kind → (∀ stack, (kind, stack) ∉ history) →
        kinds.load bytes format = .error (.unknownKind kind kinds.names)) ∧
    (StackVariant.LeavesKinds ε → ∀ (kinds : StackKinds ε) history, Built kinds history →
      ∀ bytes format kind registered,
        kinds.load bytes format = .error (.unknownKind kind registered) ↔
          (∃ doc, format.parse bytes = .ok doc ∧ doc.AsksFor kind) ∧
            (∀ stack, (kind, stack) ∉ history) ∧ registered = kinds.names) ∧
    (∀ kind registered, (StackError.unknownKind kind registered).message =
      "Unknown stack kind '" ++ kind ++ "' (registered: " ++ ", ".intercalate registered ++ ")") ∧
    (∀ (kinds : StackKinds ε) history, Built kinds history → ∀ bytes format doc kind,
      format.parse bytes = .ok doc → doc.AsksFor kind → (∃ stack, (kind, stack) ∈ history) →
        ∃ stack, history.lookup kind = some stack ∧ kinds.load bytes format = stack.load doc ∧
          ∀ (kinds' : StackKinds ε) history', Built kinds' history' →
            history'.lookup kind = some stack →
              kinds'.load bytes format = kinds.load bytes format) ∧
    (∀ bytes format e, Format.Refuses format bytes e →
      ∀ kinds : StackKinds ε, kinds.load bytes format = .error e) ∧
    ∀ bytes format, (∃ doc kind, Format.parse format bytes = .ok doc ∧ doc.AsksFor kind) ∨
      ∃ e, format.Refuses bytes e := by
  refine ⟨fun kinds history h => ⟨kinds.names_ascending, fun kind => h.mem_names_iff⟩,
    fun kinds history h bytes format doc kind hparse hkind hnever =>
      h.load_of_lookup_eq_none hparse hkind (Keyed.lookup_eq_none_iff.2 hnever),
    fun hleaves kinds history h bytes format kind registered => h.load_eq_unknownKind_iff hleaves,
    fun kind registered => rfl, fun kinds history h bytes format doc kind hparse hkind hknown => ?_,
    fun bytes format e hrefuses kinds => kinds.load_of_refuses hrefuses,
    fun bytes format => format.asks_or_refuses bytes⟩
  obtain ⟨first, hfirst⟩ := hknown
  have hlookup : history.lookup kind ≠ none := fun hnone =>
    Keyed.lookup_eq_none_iff.1 hnone first hfirst
  obtain ⟨stack, hlast⟩ := Option.ne_none_iff_exists'.1 hlookup
  have hload := h.load_of_lookup hparse hkind hlast
  refine ⟨stack, hlast, hload, fun kinds' history' h' hlast' => ?_⟩
  rw [hload, h'.load_of_lookup hparse hkind hlast']

/-- The kind `Edge` is registered twice, or once and before another one: what asks for it is read
onto the same stack. Notes are registered as well, and a note is loaded beside the clusters. The
kind `edge` is none of the known ones, and a configuration without a kind is refused for that. -/
theorem load_dispatches_edge :
    let edge : Stack Note := .cluster ⟨"web", "eu-west-1", "vpc-1a",
      ⟨"ami-2b", "m3.large", .byTag "db", none⟩, none⟩
    let kinds := ((builtin.register "Edge" (.foreign ⟨"draft"⟩)).register "Memo"
      (.foreign ⟨""⟩)).register "Edge" edge
    let other := (empty.register "Edge" edge).register "Tier" (.cluster .initial)
    let asking := Utf8.encode "\x7b\"kind\": \"Edge\"\x7d"
    let noting := Utf8.encode "\x7b\"kind\": \"Memo\", \"text\": \"later\"\x7d"
    let unknown := Utf8.encode "\x7b\"kind\": \"edge\"\x7d"
    kinds.load asking .json = .ok edge ∧ other.load asking .json = .ok edge ∧
      kinds.load noting .json = .ok (.foreign ⟨"later"⟩) ∧
      kinds.load unknown .json = .error (.unknownKind "edge" ["Cluster", "Edge", "Memo"]) ∧
      other.load unknown .json = .error (.unknownKind "edge" ["Edge", "Tier"]) ∧
      (builtin : StackKinds).load unknown .json = .error (.unknownKind "edge" ["Cluster"]) ∧
      kinds.load (Utf8.encode "\x7b\x7d") .json = .error .missingKind := by
  intro edge kinds other asking noting unknown
  have hkinds : Built kinds [("Edge", edge), ("Memo", .foreign ⟨""⟩), ("Edge", .foreign ⟨"draft"⟩),
      ("Cluster", .cluster .initial)] := .register _ _ (.register _ _ (.register _ _ .builtin))
  have hother : Built other [("Tier", .cluster .initial), ("Edge", edge)] :=
    .register _ _ (.register _ _ .empty)
  have hasking : Format.parse .json asking = .ok (.obj [("kind", .str "Edge")]) :=
    Format.parse_json_eq_ok_iff.2 (by decide +kernel)
  have hnoting : Format.parse .json noting =
      .ok (.obj [("kind", .str "Memo"), ("text", .str "later")]) :=
    Format.parse_json_eq_ok_iff.2 (by decide +kernel)
  have hunknown : Format.parse .json unknown = .ok (.obj [("kind", .str "edge")]) :=
    Format.parse_json_eq_ok_iff.2 (by decide +kernel)
  have hempty : Format.parse .json (Utf8.encode "\x7b\x7d") = .ok (.obj []) :=
    Format.parse_json_eq_ok_iff.2 (by decide +kernel)
  obtain ⟨-, -, hnever, -, hlast, hrefused, -⟩ := load_dispatches Note
  obtain ⟨-, -, hnever', -⟩ := load_dispatches Empty
  obtain ⟨stack, hstack, hload, hsame⟩ := hlast kinds _ hkinds asking .json _ "Edge" hasking
    ⟨rfl, by decide⟩ ⟨edge, List.mem_cons_self⟩
  cases hstack
  have hedge : kinds.load asking .json = .ok edge := hload.trans (by decide +kernel)
  obtain ⟨memo, hmemo, hnote, -⟩ := hlast kinds _ hkinds noting .json _ "Memo" hnoting
    ⟨rfl, by decide⟩ ⟨.foreign ⟨""⟩, by simp⟩
  cases hmemo
  refine ⟨hedge, (hsame other _ hother rfl).trans hedge, hnote.trans (by decide +kernel),
    ?_, ?_, ?_, ?_⟩
  · exact (hnever Note.leavesKinds kinds _ hkinds unknown .json "edge" _).2
      ⟨⟨_, hunknown, rfl, by decide⟩, by simp, by decide +kernel⟩
  · exact (hnever Note.leavesKinds other _ hother unknown .json "edge" _).2
      ⟨⟨_, hunknown, rfl, by decide⟩, by simp, by decide +kernel⟩
  · exact (hnever' StackVariant.leavesKinds_empty builtin _ .builtin unknown .json "edge" _).2
      ⟨⟨_, hunknown, rfl, by decide⟩, by simp, by decide +kernel⟩
  · exact hrefused _ .json _ (.asksForNone hempty (.missing rfl rfl)) kinds

end StackKinds

end StackForm
