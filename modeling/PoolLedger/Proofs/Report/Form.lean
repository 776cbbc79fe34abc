import Mathlib.Data.List.Forall2
import PoolLedger.Proofs.Report.Attributes

/-!
# Reports as attributes and as JSON

What an event reports is a few single values under keys of their own and a list, each item of which
has values under the same keys (`Report`). It is written as attributes, one after the other, or as a
JSON object whose member for the list is an array of objects (`Report.Body`). A reader picks the
same from both (`Report.Body.alike`).
-/

namespace PoolLedger

/-- Keys that no reader picks together. -/
def Apart (k l : String) : Prop := k ≠ l ∧ ¬(isDotted k ∧ isDotted l)

instance (k l : String) : Decidable (Apart k l) := inferInstanceAs (Decidable (_ ∧ _))

theorem Apart.picks {k l : String} (h : Apart k l) {p : String → Bool} (hp : Picks p) :
    p k = false ∨ p l = false := by
  cases hp with
  | key key =>
    by_cases hk : k = key
    · exact .inr (beq_eq_false_iff_ne.2 fun hl => h.1 (hk.trans hl.symm))
    · exact .inl (beq_eq_false_iff_ne.2 hk)
  | dotted =>
    by_cases hk : isDotted k
    · exact .inr (Bool.eq_false_iff.2 fun hl => h.2 ⟨hk, hl⟩)
    · exact .inl (Bool.eq_false_iff.2 hk)

theorem Apart.of_dotted {k l : String} (hk : isDotted k = false) (hl : isDotted l) :
    Apart k l := by
  refine ⟨?_, by simp [hk]⟩
  rintro rfl
  rw [hk] at hl
  cases hl

/-- What an event reports: single values, and values for each item of a list. -/
structure Report where
  fields : Attributes
  rows : List Attributes := []

namespace Report

/-- The report as attributes, item by item. -/
def attributes (r : Report) : Attributes := r.fields ++ r.rows.flatten

/-- No two values are picked together, unless they belong to different items of the list. -/
structure Unambiguous (r : Report) : Prop where
  fields : (r.fields.map (·.1)).Pairwise Apart
  row : ∀ row ∈ r.rows, (row.map (·.1)).Pairwise Apart
  field_row : ∀ f ∈ r.fields, ∀ row ∈ r.rows, ∀ m ∈ row, Apart f.1 m.1

end Report

namespace Json

/-- A value that is written for a text: the text itself or, where it reads so, a number, a truth
value or null. -/
inductive Spells : Json → String → Prop where
  | str (s : String) : Spells (.str s) s
  | int (n : Int) : Spells (.int n) (toString n)
  | bool (b : Bool) : Spells (.bool b) (if b then "true" else "false")
  | null : Spells .null ""

/-- A member that is written for a value under its key. -/
def SpellsMember (m : String × Json) (f : String × String) : Prop := m.1 = f.1 ∧ m.2.Spells f.2

/-- Members that are written for values, in any order. -/
def SpellsAll (members : List (String × Json)) (fields : Attributes) : Prop :=
  ∃ ordered, members.Perm ordered ∧ List.Forall₂ SpellsMember ordered fields

/-- An object that is written for an item of a list. -/
def SpellsRow (j : Json) (row : Attributes) : Prop :=
  ∃ members, j = .obj members ∧ SpellsAll members row

end Json

/-- A JSON object that is written for a report. The list stands under a name of its own. -/
inductive Report.Body (r : Report) : Json → Prop where
  | plain {members : List (String × Json)} (fields : Json.SpellsAll members r.fields)
    (rows : r.rows = []) : r.Body (.obj members)
  | list {members single : List (String × Json)} {name : String} {items : List Json}
    (split : members.Perm (single ++ [(name, .arr items)]))
    (fields : Json.SpellsAll single r.fields) (fresh : name ∉ r.fields.map (·.1))
    (rows : List.Forall₂ Json.SpellsRow items r.rows) : r.Body (.obj members)

namespace Attributes

section
variable {ordered : List (String × Json)} {fields : Attributes}

theorem ofMember_spells {m : String × Json} {f : String × String} (h : Json.SpellsMember m f) :
    ofMember m = [f] := by
  obtain ⟨key, j⟩ := m
  obtain ⟨hkey, hj⟩ := h
  change key = f.1 at hkey
  rw [hkey]
  change j.Spells f.2 at hj
  cases f
  cases hj <;> rfl

theorem map_ofMember (h : List.Forall₂ Json.SpellsMember ordered fields) :
    ordered.map ofMember = fields.map ([·]) := by
  induction h with
  | nil => rfl
  | cons hm _ ih => rw [List.map_cons, List.map_cons, ofMember_spells hm, ih]

theorem map_name (h : List.Forall₂ Json.SpellsMember ordered fields) :
    ordered.map (·.1) = fields.map (·.1) := by
  induction h with
  | nil => rfl
  | cons hm _ ih => rw [List.map_cons, List.map_cons, hm.1, ih]

theorem flatMap_ofMember
    (h : List.Forall₂ Json.SpellsMember ordered fields) :
    ordered.flatMap ofMember = fields := by
  rw [List.flatMap_def, map_ofMember h, ← List.flatMap_def, List.flatMap_singleton']

theorem nodup_names (h : List.Forall₂ Json.SpellsMember ordered fields)
    (hapart : (fields.map (·.1)).Pairwise Apart) : (ordered.map (·.1)).Nodup :=
  map_name h ▸ hapart.imp And.left

theorem pairwise_ofMember {p : String → Bool} (hp : Picks p)
    (h : List.Forall₂ Json.SpellsMember ordered fields)
    (hapart : (fields.map (·.1)).Pairwise Apart) :
    ordered.Pairwise fun m n =>
      (ofMember m).filter (p ·.1) = [] ∨ (ofMember n).filter (p ·.1) = [] := by
  have hfields : (fields.map ([·])).Pairwise fun (a b : Attributes) =>
      a.filter (p ·.1) = [] ∨ b.filter (p ·.1) = [] :=
    List.pairwise_map.2 ((List.pairwise_map.1 hapart).imp fun hfg =>
      (hfg.picks hp).imp (fun hf => by simp [hf]) fun hg => by simp [hg])
  rw [← map_ofMember h] at hfields
  exact (List.pairwise_map (f := ofMember)).1 hfields

/-- An object gives the values that it is written for. -/
theorem alike_ofJson {members : List (String × Json)} (h : Json.SpellsAll members fields)
    (hapart : (fields.map (·.1)).Pairwise Apart) : (ofJson (.obj members)).Alike fields := by
  obtain ⟨ordered, hperm, hspells⟩ := h
  intro p hp
  rw [filter_ofJson hperm (nodup_names hspells hapart) (pairwise_ofMember hp hspells hapart),
    flatMap_ofMember hspells]

/-- An array of objects gives the values of its items one after the other. -/
theorem alike_ofMember_arr {items : List Json} {rows : List Attributes}
    (h : List.Forall₂ Json.SpellsRow items rows)
    (hapart : ∀ row ∈ rows, (row.map (·.1)).Pairwise Apart) (name : String) :
    (ofMember (name, .arr items)).Alike rows.flatten := by
  have hitems : ofMember (name, .arr items) = items.flatMap fun j => flatten name j.sorted := by
    change flattenItems name (Json.sortedItems items) = _
    rw [flattenItems_eq_flatMap, Json.sortedItems_eq_map, List.flatMap_map]
  rw [hitems]
  clear hitems
  induction h with
  | nil => exact .refl _
  | @cons j row items rows hrow _ ih =>
    obtain ⟨members, rfl, hmembers⟩ := hrow
    rw [List.flatMap_cons, List.flatten_cons]
    exact (alike_ofJson hmembers (hapart row List.mem_cons_self)).append
      (ih fun row' hrow' => hapart row' (List.mem_cons_of_mem row hrow'))

end

end Attributes

/-- A reader picks the same from both forms of a report. -/
theorem Report.Body.alike {r : Report} {j : Json} (hr : r.Unambiguous) (h : r.Body j) :
    (Attributes.ofJson j).Alike r.attributes := by
  cases h with
  | plain fields rows =>
    rw [attributes, rows, List.flatten_nil, List.append_nil]
    exact Attributes.alike_ofJson fields hr.fields
  | @list members single name items split fields fresh rows =>
    obtain ⟨ordered, hperm, hspells⟩ := fields
    have harr := Attributes.alike_ofMember_arr rows hr.row name
    intro p hp
    -- what is picked of the list is not picked of a field
    have hcross : ∀ m ∈ ordered, (Attributes.ofMember m).filter (p ·.1) = [] ∨
        (Attributes.ofMember (name, .arr items)).filter (p ·.1) = [] := by
      intro m hm
      have hmem : Attributes.ofMember m ∈ r.fields.map ([·]) :=
        Attributes.map_ofMember hspells ▸ List.mem_map_of_mem hm
      obtain ⟨f, hf, heq⟩ := List.mem_map.1 hmem
      rw [← heq, harr p hp]
      cases hpf : p f.1 with
      | false => exact .inl (by simp [hpf])
      | true =>
        refine .inr (List.filter_eq_nil_iff.2 fun n hn => ?_)
        obtain ⟨row, hrow, hnrow⟩ := List.mem_flatten.1 hn
        rcases (hr.field_row f hf row hrow n hnrow).picks hp with h | h
        · rw [hpf] at h
          cases h
        · simp [h]
    have hnames : ((ordered ++ [(name, Json.arr items)]).map (·.1)).Nodup := by
      rw [List.map_append, Attributes.map_name hspells, List.map_singleton]
      refine List.nodup_append.2 ⟨hr.fields.imp And.left, List.pairwise_singleton .., ?_⟩
      rintro k hk l hl rfl
      obtain rfl : k = name := List.mem_singleton.1 hl
      exact fresh hk
    have hone : (ordered ++ [(name, Json.arr items)]).Pairwise fun m n =>
        (Attributes.ofMember m).filter (p ·.1) = [] ∨
          (Attributes.ofMember n).filter (p ·.1) = [] :=
      List.pairwise_append.2 ⟨Attributes.pairwise_ofMember hp hspells hr.fields,
        List.pairwise_singleton .., fun m hm n hn => List.mem_singleton.1 hn ▸ hcross m hm⟩
    rw [Attributes.filter_ofJson (split.trans (hperm.append_right _)) hnames hone,
      List.flatMap_append, Attributes.flatMap_ofMember hspells, List.flatMap_singleton, attributes,
      List.filter_append, List.filter_append, harr p hp]

end PoolLedger
