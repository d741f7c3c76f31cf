import StackForm.Json.Number
import StackForm.Keyed

/-!
# JSON documents

A document is null, a truth value, a number, a text, a list or an object. An object is a keyed list
of members; a *sorted* document has ascending member names at every depth, and is what reading a
document gives.
-/

namespace StackForm

inductive Json where
  | null
  | bool (value : Bool)
  | num (value : Json.Number)
  | str (value : String)
  | arr (items : List Json)
  | obj (members : List (String × Json))

namespace Json

instance : Inhabited Json := ⟨.null⟩

/-! ### Equality -/

mutual

/-- The two documents are the same, item by item and member by member. -/
def beq : Json → Json → Bool
  | .null, .null => true
  | .bool a, .bool b => a == b
  | .num a, .num b => a == b
  | .str a, .str b => a == b
  | .arr xs, .arr ys => beqItems xs ys
  | .obj xs, .obj ys => beqMembers xs ys
  | _, _ => false

def beqItems : List Json → List Json → Bool
  | [], [] => true
  | x :: xs, y :: ys => beq x y && beqItems xs ys
  | _, _ => false

def beqMembers : List (String × Json) → List (String × Json) → Bool
  | [], [] => true
  | (k, x) :: xs, (l, y) :: ys => k == l && beq x y && beqMembers xs ys
  | _, _ => false

end

mutual

theorem eq_of_beq : ∀ {a b : Json}, beq a b = true → a = b
  | .null, .null, _ => rfl
  | .bool a, .bool b, h => by simp [beq] at h; rw [h]
  | .num a, .num b, h => by simp [beq] at h; rw [h]
  | .str a, .str b, h => by simp [beq] at h; rw [h]
  | .arr xs, .arr ys, h => by rw [beq] at h; rw [eq_of_beqItems h]
  | .obj xs, .obj ys, h => by rw [beq] at h; rw [eq_of_beqMembers h]

theorem eq_of_beqItems : ∀ {xs ys : List Json}, beqItems xs ys = true → xs = ys
  | [], [], _ => rfl
  | x :: xs, y :: ys, h => by
    rw [beqItems, Bool.and_eq_true] at h
    rw [eq_of_beq h.1, eq_of_beqItems h.2]

theorem eq_of_beqMembers :
    ∀ {xs ys : List (String × Json)}, beqMembers xs ys = true → xs = ys
  | [], [], _ => rfl
  | (k, x) :: xs, (l, y) :: ys, h => by
    simp only [beqMembers, Bool.and_eq_true, beq_iff_eq] at h
    rw [h.1.1, eq_of_beq h.1.2, eq_of_beqMembers h.2]

end

mutual

theorem beq_self : ∀ a : Json, beq a a = true
  | .null => rfl
  | .bool _ => by simp [beq]
  | .num _ => by simp [beq]
  | .str _ => by simp [beq]
  | .arr xs => by rw [beq]; exact beqItems_self xs
  | .obj xs => by rw [beq]; exact beqMembers_self xs

theorem beqItems_self : ∀ xs : List Json, beqItems xs xs = true
  | [] => rfl
  | x :: xs => by rw [beqItems, beq_self x, beqItems_self xs]; rfl

theorem beqMembers_self : ∀ xs : List (String × Json), beqMembers xs xs = true
  | [] => rfl
  | (k, x) :: xs => by simp [beqMembers, beq_self x, beqMembers_self xs]

end

instance : DecidableEq Json := fun a b =>
  if h : beq a b = true then isTrue (eq_of_beq h)
  else isFalse fun hab => h (hab ▸ beq_self a)

/-! ### Shapes -/

def isNull : Json → Bool
  | .null => true
  | _ => false

def isBool : Json → Bool
  | .bool _ => true
  | _ => false

def isString : Json → Bool
  | .str _ => true
  | _ => false

def isObject : Json → Bool
  | .obj _ => true
  | _ => false

/-- The members of an object. -/
def members? : Json → Option (List (String × Json))
  | .obj members => some members
  | _ => none

/-- The items of a list. -/
def items? : Json → Option (List Json)
  | .arr items => some items
  | _ => none

/-- The member of an object under `key`. -/
def get? (doc : Json) (key : String) : Option Json :=
  doc.members?.bind (·.lookup key)

/-- The list of the given texts. -/
def strings (texts : List String) : Json :=
  .arr (texts.map .str)

/-! ### Order of members -/

mutual

/-- The same document with its members in ascending order, at every depth; of several members with
one name the last one stays. -/
def sorted : Json → Json
  | .arr items => .arr (sortedItems items)
  | .obj members => .obj (sortedMembers [] members)
  | doc => doc

def sortedItems : List Json → List Json
  | [] => []
  | x :: xs => sorted x :: sortedItems xs

/-- Add the members one by one to those that are sorted already. -/
def sortedMembers (done : List (String × Json)) : List (String × Json) → List (String × Json)
  | [] => done
  | (k, v) :: rest => sortedMembers (Keyed.insert k (sorted v) done) rest

end

end Json

end StackForm
