import Mathlib.Data.List.Forall2
import PoolLedger.Json.Record

/-!
# The order of members

A database may give the members of an object back in another order than they were written in.
Nothing that is read depends on that order (`OrderFree`): a record is read field by field, and a
field is found by its name (`orderFree_record`). Sorting the members is one such order, if no object
has two members of one name (`Distinct.rearranged_sorted`).
-/

namespace PoolLedger.Json

/-- The same value with the members of its objects in any order. -/
inductive Rearranged : Json → Json → Prop where
  | null : Rearranged .null .null
  | bool (b : Bool) : Rearranged (.bool b) (.bool b)
  | num (n : JsonNumber) : Rearranged (.num n) (.num n)
  | str (s : String) : Rearranged (.str s) (.str s)
  | unreadable : Rearranged .unreadable .unreadable
  | arr {items items' : List Json} (h : List.Forall₂ Rearranged items items') :
    Rearranged (.arr items) (.arr items')
  | obj {members ordered members' : List (String × Json)}
    (hnames : members.map (·.1) = ordered.map (·.1))
    (hvalues : List.Forall₂ Rearranged (members.map (·.2)) (ordered.map (·.2)))
    (hperm : ordered.Perm members') : Rearranged (.obj members) (.obj members')

/-- No object in the value has two members of one name. -/
inductive Distinct : Json → Prop where
  | null : Distinct .null
  | bool (b : Bool) : Distinct (.bool b)
  | num (n : JsonNumber) : Distinct (.num n)
  | str (s : String) : Distinct (.str s)
  | unreadable : Distinct .unreadable
  | arr {items : List Json} (h : ∀ j ∈ items, Distinct j) : Distinct (.arr items)
  | obj {members : List (String × Json)} (hnames : (members.map (·.1)).Nodup)
    (h : ∀ m ∈ members, Distinct m.2) : Distinct (.obj members)

/-! ## Records -/

section
variable {members members' : List (String × Json)} {name : String}

/-- The first member of a name is the same in any order if there is only one. -/
theorem lookup_eq_of_perm (hperm : members.Perm members')
    (hone : members.countP (·.1 == name) ≤ 1) : members.lookup name = members'.lookup name := by
  induction hperm with
  | nil => rfl
  | cons m _ ih =>
    rw [List.countP_cons] at hone
    rw [List.lookup_cons, List.lookup_cons, ih (Nat.le_of_add_right_le hone)]
  | swap m n rest =>
    rw [List.lookup_cons, List.lookup_cons, List.lookup_cons, List.lookup_cons]
    cases hm : name == m.1 with
    | false => rfl
    | true =>
      cases hn : name == n.1 with
      | false => rfl
      | true =>
        rw [List.countP_cons, List.countP_cons, BEq.comm, hm, BEq.comm, hn] at hone
        simp only [if_true] at hone
        omega
  | trans h _ ih ih' => exact (ih hone).trans (ih' (h.countP_eq _ ▸ hone))

theorem lookup_rearranged (hnames : members.map (·.1) = members'.map (·.1))
    (hvalues : List.Forall₂ Rearranged (members.map (·.2)) (members'.map (·.2))) :
    Option.Rel Rearranged (members.lookup name) (members'.lookup name) := by
  induction members generalizing members' with
  | nil =>
    cases members' with
    | nil => exact .none
    | cons _ _ => cases hnames
  | cons m rest ih =>
    cases members' with
    | nil => cases hnames
    | cons m' rest' =>
      obtain ⟨hname, hnames⟩ := List.cons.inj hnames
      cases hvalues with
      | cons hvalue hvalues =>
        rw [List.lookup_cons, List.lookup_cons, show m.1 = m'.1 from hname]
        cases name == m'.1 with
        | true => exact .some hvalue
        | false => exact ih hnames hvalues

theorem lookup_zip_rearranged {items items' : List Json} (h : List.Forall₂ Rearranged items items')
    (names : List String) :
    Option.Rel Rearranged ((names.zip items).lookup name) ((names.zip items').lookup name) := by
  induction h generalizing names with
  | nil =>
    rw [List.zip_nil_right]
    exact .none
  | cons hitem _ ih =>
    cases names with
    | nil => exact .none
    | cons name' names =>
      rw [List.zip_cons_cons, List.zip_cons_cons, List.lookup_cons, List.lookup_cons]
      cases name == name' with
      | true => exact .some hitem
      | false => exact ih names

theorem countP_name_eq (hnames : members.map (·.1) = members'.map (·.1)) (name : String) :
    members.countP (·.1 == name) = members'.countP (·.1 == name) := by
  have h := congrArg (List.countP (· == name)) hnames
  rwa [List.countP_map, List.countP_map] at h

end

/-- Each of the fields is missing in both records or has the same value in both, up to order. -/
def Alike (names : List String) (r r' : List (String × Json)) : Prop :=
  ∀ name ∈ names, Option.Rel Rearranged (r.lookup name) (r'.lookup name)

variable {names : List String} {least : Nat} {r r' : List (String × Json)} {j j' : Json}

theorem Rearranged.fields? (h : Rearranged j j') :
    Option.Rel (Alike names) (fields? names least j) (fields? names least j') := by
  cases h with
  | @obj members ordered members' hnames hvalues hperm =>
    have hcount : ∀ name, ordered.countP (·.1 == name) = members'.countP (·.1 == name) :=
      fun name => hperm.countP_eq _
    have honce : namesOnce names members = namesOnce names members' := by
      simp only [namesOnce, ← hcount, countP_name_eq hnames]
    rw [Json.fields?, Json.fields?, honce]
    cases hall : namesOnce names members' with
    | false => exact .none
    | true =>
      -- a name that is none of the record's may repeat, and its members may then change places
      apply Option.Rel.some
      intro name hname
      have hone : members'.countP (·.1 == name) ≤ 1 := by
        simpa using List.all_eq_true.1 hall name hname
      rw [← lookup_eq_of_perm hperm (hcount name ▸ hone)]
      exact lookup_rearranged hnames hvalues
  | arr hitems =>
    rw [Json.fields?, Json.fields?, hitems.length_eq]
    split
    · exact .some fun name _ => lookup_zip_rearranged hitems names
    · exact .none
  | _ => exact .none

theorem eq_of_rel {R : α → α → Prop} {f : Option α → β} (hf : ∀ a a', R a a' → f a = f a')
    {o o' : Option α} (h : Option.Rel R o o') : f o = f o' := by
  cases h with
  | none => rfl
  | some h => exact hf _ _ h

/-! ## Readers -/

/-- What is read of a value does not depend on the order of members. -/
def OrderFree (read : Json → Option α) : Prop := ∀ ⦃j j'⦄, Rearranged j j' → read j = read j'

section
variable {read : Json → Option α}

theorem orderFree_string? : OrderFree string? := by
  intro j j' h
  cases h <;> rfl

theorem orderFree_bool? : OrderFree bool? := by
  intro j j' h
  cases h <;> rfl

theorem orderFree_int? : OrderFree int? := by
  intro j j' h
  cases h <;> rfl

theorem case?_obj_of_length {members : List (String × Json)} (h : members.length ≠ 1) :
    case? (.obj members) = none := by
  rw [case?]
  · intro s hs
    cases hs
  · intro name hmember
    cases hmember
    exact h rfl

theorem orderFree_case? : OrderFree case? := by
  intro j j' h
  cases h with
  | @obj members ordered members' hnames hvalues hperm =>
    have hlength : members.length = members'.length := by
      have h := congrArg List.length hnames
      rwa [List.length_map, List.length_map, hperm.length_eq] at h
    -- a case is said by one member, which can only stand in one order
    by_cases hone : members.length = 1
    · obtain ⟨⟨name, value⟩, rfl⟩ := List.length_eq_one_iff.1 hone
      obtain ⟨⟨name', value'⟩, rfl⟩ := List.length_eq_one_iff.1 (hlength.symm.trans hone)
      obtain rfl := List.perm_singleton.1 hperm
      obtain ⟨rfl, -⟩ := List.cons.inj hnames
      cases hvalues with
      | cons hvalue _ => cases hvalue <;> rfl
    · rw [case?_obj_of_length hone, case?_obj_of_length (hlength ▸ hone)]
  | _ => rfl

theorem OrderFree.bind (h : OrderFree read) (f : α → Option β) :
    OrderFree fun j => (read j).bind f := by
  intro j j' hj
  simp only [h hj]

theorem OrderFree.list? (h : OrderFree read) : OrderFree (list? read) := by
  intro j j' hj
  cases hj with
  | arr hitems =>
    simp only [Json.list?]
    induction hitems with
    | nil => rfl
    | cons hitem _ ih => rw [List.mapM_cons, List.mapM_cons, h hitem, ih]
  | _ => rfl

theorem OrderFree.nullable (h : OrderFree read) : OrderFree (nullable read) := by
  intro j j' hj
  have heq := h hj
  cases hj with
  | null => rfl
  | _ => exact congrArg (Option.map some) heq

theorem Alike.required (h : Alike names r r') (hread : OrderFree read) {name : String}
    (hname : name ∈ names) : required read name r = required read name r' :=
  eq_of_rel (f := (·.bind read)) (fun _ _ hj => hread hj) (h name hname)

theorem defaulted_eq (read : Json → Option α) (value : α) (name : String)
    (r : List (String × Json)) :
    defaulted read value name r = (r.lookup name).elim (some value) read := by
  rw [defaulted]
  cases r.lookup name <;> rfl

theorem Alike.defaulted (h : Alike names r r') (hread : OrderFree read) {name : String}
    (hname : name ∈ names) (value : α) :
    defaulted read value name r = defaulted read value name r' := by
  rw [defaulted_eq, defaulted_eq]
  exact eq_of_rel (f := (·.elim (some value) read)) (fun _ _ hj => hread hj) (h name hname)

/-- A record is read alike if what is made of its fields is. -/
theorem orderFree_record {build : List (String × Json) → Option α}
    (h : ∀ r r', Alike names r r' → build r = build r') :
    OrderFree fun j => fields? names least j >>= build := by
  intro j j' hj
  exact eq_of_rel (f := (· >>= build)) h hj.fields?

end

/-! ## Sorted members -/

theorem insertMember_perm {name : String} {j : Json} {members : List (String × Json)}
    (h : name ∉ members.map (·.1)) :
    (insertMember name j members).Perm ((name, j) :: members) := by
  induction members with
  | nil => exact .refl _
  | cons m members ih =>
    obtain ⟨name', j'⟩ := m
    simp only [List.map_cons, List.mem_cons, not_or] at h
    rw [insertMember]
    split
    · exact .refl _
    · rw [if_neg h.1]
      exact (List.Perm.cons _ (ih h.2)).trans (.swap ..)

theorem sortMembers_perm {members : List (String × Json)} (h : (members.map (·.1)).Nodup) :
    (sortMembers members).Perm members := by
  have hfold : ∀ sorted : List (String × Json), ((members ++ sorted).map (·.1)).Nodup →
      (members.foldl (fun sorted m => insertMember m.1 m.2 sorted) sorted).Perm
        (members ++ sorted) := by
    clear h
    induction members with
    | nil => exact fun sorted _ => .refl _
    | cons m members ih =>
      intro sorted h
      rw [List.cons_append, List.map_cons, List.nodup_cons, List.map_append, List.mem_append,
        not_or] at h
      have hperm := insertMember_perm (j := m.2) h.1.2
      have hmiddle := (hperm.append_left members).trans List.perm_middle
      refine (ih _ ?_).trans hmiddle
      rw [(hmiddle.map _).nodup_iff]
      simpa using h
  simpa [sortMembers] using hfold [] (by simpa using h)

theorem sortedValues_eq_map (members : List (String × Json)) :
    sortedValues members = members.map fun m => (m.1, m.2.sorted) := by
  induction members with
  | nil => rfl
  | cons m members ih => rw [sortedValues, ih, List.map_cons]

theorem sortedItems_eq_map (items : List Json) : sortedItems items = items.map sorted := by
  induction items with
  | nil => rfl
  | cons j items ih => rw [sortedItems, ih, List.map_cons]

theorem Distinct.rearranged_sorted (h : Distinct j) : Rearranged j j.sorted := by
  induction h with
  | arr _ ih =>
    rw [sorted, sortedItems_eq_map]
    exact .arr (List.forall₂_map_right_iff.2 (List.forall₂_same.2 ih))
  | @obj members hnames _ ih =>
    have hnames' : (sortedValues members).map (·.1) = members.map (·.1) := by
      rw [sortedValues_eq_map, List.map_map]
      rfl
    refine .obj hnames'.symm ?_ (sortMembers_perm (hnames' ▸ hnames)).symm
    rw [sortedValues_eq_map, List.map_map, List.forall₂_map_left_iff, List.forall₂_map_right_iff]
    exact List.forall₂_same.2 ih
  | null => exact .null
  | bool b => exact .bool b
  | num n => exact .num n
  | str s => exact .str s
  | unreadable => exact .unreadable

end PoolLedger.Json
