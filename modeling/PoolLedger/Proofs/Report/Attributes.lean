import PoolLedger.Proofs.Json.Order
import PoolLedger.Report.Decode

/-!
# What is read of attributes

A reader picks attributes by one key, or those whose key has a dot. Two lists from which it picks
the same are alike, and an event is decoded from one as from the other (`RawEvent.decode_alike`).
Members of an object may therefore stand in any order as long as no two of them are picked together
(`Attributes.filter_ofJson`).
-/

namespace PoolLedger

/-- An asset stands as a key. -/
def isDotted (key : String) : Bool := decide ('.' ∈ key.toList)

/-- The ways in which attributes are picked by their keys. -/
inductive Picks : (String → Bool) → Prop where
  | key (key : String) : Picks (· == key)
  | dotted : Picks isDotted

namespace Attributes

/-- The same attributes are picked from both lists, in the same order. -/
def Alike (a b : Attributes) : Prop :=
  ∀ p, Picks p → a.filter (p ·.1) = b.filter (p ·.1)

theorem Alike.refl (a : Attributes) : a.Alike a := fun _ _ => rfl

theorem Alike.append {a b c d : Attributes} (h : a.Alike b) (h' : c.Alike d) :
    Alike (a ++ c) (b ++ d) := by
  intro p hp
  rw [List.filter_append, List.filter_append, h p hp, h' p hp]

theorem get?_eq_head? (attrs : Attributes) (key : String) :
    attrs.get? key = (attrs.filter (·.1 == key)).head?.map (·.2) := by
  induction attrs with
  | nil => rfl
  | cons m attrs ih =>
    rw [get?, List.lookup_cons, List.filter_cons, BEq.comm]
    cases m.1 == key with
    | true => rfl
    | false => exact ih

section
variable {a b : Attributes}

theorem Alike.get? (h : a.Alike b) (key : String) : a.get? key = b.get? key := by
  rw [get?_eq_head?, get?_eq_head?, h _ (.key key)]

theorem Alike.getAll (h : a.Alike b) (key : String) : a.getAll key = b.getAll key :=
  congrArg (List.map _) (h _ (.key key))

theorem Alike.filter_dotted (h : a.Alike b) :
    a.filter (·.1.contains '.') = b.filter (·.1.contains '.') := by
  simp only [String.contains_char_eq]
  exact h _ .dotted

theorem Alike.pool (h : a.Alike b) : a.pool = b.pool := by
  simp only [Attributes.pool, require, h.get?]

theorem Alike.int (h : a.Alike b) (key : String) : a.int key = b.int key := by
  simp only [Attributes.int, require, h.get?]

theorem Alike.intOrZero (h : a.Alike b) (key : String) : a.intOrZero key = b.intOrZero key := by
  simp only [Attributes.intOrZero, h.get?]

theorem Alike.tx (h : a.Alike b) : a.tx = b.tx := by
  simp only [Attributes.tx, require, getD, h.get?]

theorem Alike.poolAmounts (h : a.Alike b) : a.poolAmounts = b.poolAmounts := by
  simp only [Attributes.poolAmounts, contains, h.get?, h.getAll, h.filter_dotted]

theorem Alike.gasPools (h : a.Alike b) : a.gasPools = b.gasPools := by
  simp only [Attributes.gasPools, h.getAll]

theorem Alike.errataPools (h : a.Alike b) : a.errataPools = b.errataPools := by
  simp only [Attributes.errataPools, h.getAll]

end

end Attributes

namespace RawEvent

variable {raw : RawEvent} {attrs : Attributes}

theorem inboundTx_alike (h : raw.attributes.Alike attrs) :
    raw.inboundTx = { raw with attributes := attrs }.inboundTx := by
  simp only [inboundTx, Attributes.contains, h.get?, h.tx]
  rfl

theorem correlationId_alike (h : raw.attributes.Alike attrs) (key : String) :
    raw.correlationId key = { raw with attributes := attrs }.correlationId key := by
  simp only [correlationId, h.get?]

theorem feeNotice_alike (h : raw.attributes.Alike attrs) :
    raw.feeNotice = { raw with attributes := attrs }.feeNotice := by
  simp only [feeNotice, correlationId_alike h, Attributes.contains, Attributes.getD, h.get?,
    h.intOrZero]
  rfl

/-- An event is decoded alike from attributes that are alike. -/
theorem decode_alike (h : raw.attributes.Alike attrs) (kind : EventKind) :
    raw.decode kind = { raw with attributes := attrs }.decode kind := by
  cases kind <;>
    simp only [decode, domain, outboundNotice, inboundTx_alike h, feeNotice_alike h,
      correlationId_alike h, Attributes.getD, h.get?, h.pool, h.int, h.intOrZero, h.tx,
      h.poolAmounts, h.gasPools, h.errataPools]

end RawEvent

/-! ## Members in any order -/

/-- Lists of which at most one is not empty may be put together in any order. -/
theorem flatMap_perm {f : α → List β} {l l' : List α} (h : l.Perm l')
    (hone : l.Pairwise fun a b => f a = [] ∨ f b = []) : l.flatMap f = l'.flatMap f := by
  induction h with
  | nil => rfl
  | cons a _ ih => rw [List.flatMap_cons, List.flatMap_cons, ih (List.pairwise_cons.1 hone).2]
  | swap a b l =>
    have hab : f b = [] ∨ f a = [] := (List.pairwise_cons.1 hone).1 a List.mem_cons_self
    rcases hab with h | h <;> simp [h]
  | trans h _ ih ih' => exact (ih hone).trans (ih' (hone.perm h Or.symm))

namespace Attributes

theorem flattenMembers_eq_flatMap (members : List (String × Json)) :
    flattenMembers members = members.flatMap fun m => flatten m.1 m.2 := by
  induction members with
  | nil => rfl
  | cons m members ih => rw [flattenMembers, ih, List.flatMap_cons]

theorem flattenItems_eq_flatMap (key : String) (items : List Json) :
    flattenItems key items = items.flatMap (flatten key) := by
  induction items with
  | nil => rfl
  | cons j items ih => rw [flattenItems, ih, List.flatMap_cons]

/-- The attributes of a member. -/
def ofMember (m : String × Json) : Attributes := flatten m.1 m.2.sorted

/-- Attributes are picked from an object in the order of its members, whatever that is, if all that
are picked belong to one member. -/
theorem filter_ofJson {p : String → Bool} {members ordered : List (String × Json)}
    (hperm : members.Perm ordered) (hnames : (ordered.map (·.1)).Nodup)
    (hone : ordered.Pairwise fun m n =>
      (ofMember m).filter (p ·.1) = [] ∨ (ofMember n).filter (p ·.1) = []) :
    (ofJson (.obj members)).filter (p ·.1) = (ordered.flatMap ofMember).filter (p ·.1) := by
  have hnames' : ((Json.sortedValues members).map (·.1)).Nodup := by
    rw [Json.sortedValues_eq_map, List.map_map]
    exact ((hperm.map _).nodup_iff).2 hnames
  have hsorted : (Json.sortMembers (Json.sortedValues members)).Perm
      (ordered.map fun m => (m.1, m.2.sorted)) :=
    (Json.sortMembers_perm hnames').trans (Json.sortedValues_eq_map members ▸ hperm.map _)
  change (flattenMembers (Json.sortMembers (Json.sortedValues members))).filter _ = _
  rw [flattenMembers_eq_flatMap, List.filter_flatMap, List.filter_flatMap, flatMap_perm hsorted,
    List.flatMap_map]
  · rfl
  · refine List.Pairwise.perm ?_ hsorted.symm Or.symm
    exact List.pairwise_map.2 hone

end Attributes

end PoolLedger
