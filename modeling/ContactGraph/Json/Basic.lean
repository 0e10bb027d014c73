import ContactGraph.NameMap
import ContactGraph.Number.Double

/-!
# JSON values

A JSON value keeps whole numbers and doubles apart, and the members of an object in the order they
were written. Where a name is written twice the last member counts. A reader is a function to
`Option` that is `none` where a value does not have the asked shape; `required`, `optional`,
`orDefault` and `unlessMissing` read a member of an object by a reader and differ in what a
missing or null member means.
-/

namespace ContactGraph

/-- A JSON value. -/
inductive Json where
  /-- Nothing. -/
  | null
  /-- A truth value. -/
  | bool (b : Bool)
  /-- A number written without point and exponent. -/
  | integer (i : Int)
  /-- Any other number. -/
  | double (x : Double)
  /-- A text. -/
  | text (s : String)
  /-- Values in order. -/
  | array (items : List Json)
  /-- Named values in order. -/
  | object (members : List (String × Json))

namespace Json

instance : Inhabited Json := ⟨.null⟩

variable {α β : Type}

/-! ## Simple values -/

/-- A text. -/
def text? : Json → Option String
  | .text s => some s
  | _ => none

/-- A truth value. -/
def bool? : Json → Option Bool
  | .bool b => some b
  | _ => none

/-- A natural number below a bound. -/
def natural? (bound : Nat) : Json → Option Nat
  | .integer i => if 0 ≤ i ∧ i < bound then some i.toNat else none
  | _ => none

/-- A count of 64 bits. -/
def count? : Json → Option Nat :=
  natural? (Number.pow2 64)

/-- A word of 32 bits. -/
def word? (j : Json) : Option UInt32 :=
  (natural? (Number.pow2 32) j).map UInt32.ofNat

/-- A signed integer of 64 bits. -/
def integer? : Json → Option Int64
  | .integer i =>
    if -(Number.pow2 63 : Int) ≤ i ∧ i < Number.pow2 63 then some (Int64.ofInt i) else none
  | _ => none

/-- Any number, as a double. -/
def double? : Json → Option Double
  | .integer i => some (Double.ofInt i)
  | .double x => some x
  | _ => none

/-! ## Arrays and objects -/

/-- An array of values that `read` reads. -/
def list? (read : Json → Option α) : Json → Option (List α)
  | .array items => items.mapM read
  | _ => none

/-- An array of texts. -/
def texts? : Json → Option (List String) :=
  list? text?

/-- An array of two values. -/
def pair? (first : Json → Option α) (second : Json → Option β) : Json → Option (α × β)
  | .array [a, b] => do pure (← first a, ← second b)
  | _ => none

/-- Whether a value is null. -/
def isNull : Json → Bool
  | .null => true
  | _ => false

/-- Whether a value is null or an object without members. -/
def isHollow : Json → Bool
  | .null => true
  | .object members => members.isEmpty
  | _ => false

/-- A value or null. -/
def nullable? (read : Json → Option α) : Json → Option (Option α)
  | .null => some none
  | j => (read j).map some

/-- An object whose members `read` reads. -/
def map? (read : Json → Option α) : Json → Option (NameMap α)
  | .object members =>
    (members.mapM fun m => (read m.2).map fun v => (m.1, v)).map NameMap.ofList
  | _ => none

/-- Whether a value is an object. -/
def isObject : Json → Bool
  | .object _ => true
  | _ => false

/-- A record as an object. A record is written as an object, or as an array of its members in the
order of `names`, none of them left out. -/
def record? (names : List String) : Json → Option Json
  | .object members => some (.object members)
  | .array items => if items.length = names.length then some (.object (names.zip items)) else none
  | _ => none

/-- A record as an object, where an array may leave out members from the end. -/
def shortRecord? (names : List String) : Json → Option Json
  | .object members => some (.object members)
  | .array items => if items.length ≤ names.length then some (.object (names.zip items)) else none
  | _ => none

/-- A word of a fixed set. It is written as a text, or as an object with the word as the name of its
only member and a value in it that `isEmpty` holds of. -/
def namedBy? (isEmpty : Json → Bool) (ofName? : String → Option α) : Json → Option α
  | .text name => ofName? name
  | .object [(name, v)] => if isEmpty v then ofName? name else none
  | _ => none

/-- A word of a fixed set, as text or as the name of a null. -/
def named? (ofName? : String → Option α) : Json → Option α :=
  namedBy? isNull ofName?

/-- The member of an object with the given name. -/
def member? : Json → String → Option Json
  | .object members, name => members.reverse.lookup name
  | _, _ => none

/-- A member that has to be there. -/
def required (j : Json) (name : String) (read : Json → Option α) : Option α :=
  (j.member? name).bind read

/-- A member that may be missing or null. -/
def optional (j : Json) (name : String) (read : Json → Option α) : Option (Option α) :=
  match j.member? name with
  | none => some none
  | some v => nullable? read v

/-- A member with a value to take when it is missing or null. -/
def orDefault (j : Json) (name : String) (read : Json → Option α) (dflt : α) : Option α :=
  (j.optional name read).map (·.getD dflt)

/-- A member with a value to take when it is missing, but not when it is null. -/
def unlessMissing (j : Json) (name : String) (read : Json → Option α) (dflt : α) : Option α :=
  match j.member? name with
  | none => some dflt
  | some v => read v

/-! ## Parts are smaller -/

/-- A value that a look-up finds is in the list. -/
theorem mem_of_lookup {name : String} {v : Json} {members : List (String × Json)}
    (h : members.lookup name = some v) : ∃ k, (k, v) ∈ members := by
  induction members with
  | nil => simp at h
  | cons m ms ih =>
    obtain ⟨k, w⟩ := m
    rw [List.lookup_cons] at h
    split at h
    · exact ⟨k, by simp_all⟩
    · obtain ⟨l, hl⟩ := ih h
      exact ⟨l, List.mem_cons_of_mem _ hl⟩

/-- A member is smaller than its object. -/
theorem sizeOf_lt_of_member? {j v : Json} {name : String} (h : j.member? name = some v) :
    sizeOf v < sizeOf j := by
  cases j with
  | object members =>
    obtain ⟨k, hk⟩ := mem_of_lookup h
    have := List.sizeOf_lt_of_mem (List.mem_reverse.1 hk)
    simp only [Prod.mk.sizeOf_spec, object.sizeOf_spec] at this ⊢
    omega
  | _ => simp [member?] at h

/-- The items of a member that is an array, each smaller than the whole. -/
def itemsOf? (j : Json) (name : String) : Option (List { i : Json // sizeOf i < sizeOf j }) :=
  match h : j.member? name with
  | some (.array items) => some (items.attach.map fun i => ⟨i.1, by
      have hm := sizeOf_lt_of_member? h
      have hi := List.sizeOf_lt_of_mem i.2
      simp only [array.sizeOf_spec] at hm
      omega⟩)
  | _ => none

end Json

end ContactGraph
