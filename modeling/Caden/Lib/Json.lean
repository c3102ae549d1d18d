import Mathlib.Data.List.Nodup
import Mathlib.Data.List.Sublists

/-!
JSON values as a serializer is told them.

An object comes with the number of members that was announced for it. It is well formed when this
is the number of members that follow and no key is repeated. The order of its members means nothing
to a reader, so a serializer loses nothing when it writes different values as values that differ in
more than that order.
-/

namespace Caden

/-- A value as it was given to a serializer. -/
inductive Json where
  | bool (b : Bool)
  | num (n : ℤ)
  | str (s : String)
  | arr (items : List Json)
  | obj (len : ℕ) (members : List (String × Json))

namespace Json

universe u

/-- Every object has the announced number of members, under different keys. -/
inductive WellFormed : Json → Prop
  | bool (b : Bool) : WellFormed (.bool b)
  | num (n : ℤ) : WellFormed (.num n)
  | str (s : String) : WellFormed (.str s)
  | arr {items : List Json} (h : ∀ x ∈ items, WellFormed x) : WellFormed (.arr items)
  | obj {len : ℕ} {members : List (String × Json)} (hlen : members.length = len)
      (hkeys : (members.map Prod.fst).Nodup) (h : ∀ m ∈ members, WellFormed m.2) :
      WellFormed (.obj len members)

attribute [simp] WellFormed.bool WellFormed.num WellFormed.str

/-! ### Members -/

/-- The members that are written for fields: one for each value that is present. -/
def entries (fields : List (String × Option Json)) : List (String × Json) :=
  fields.filterMap fun f => f.2.map fun j => (f.1, j)

section
variable {fields : List (String × Option Json)} {key : String} {o : Option Json}

@[simp] lemma entries_nil : entries [] = [] := rfl

@[simp] lemma entries_cons_some (j : Json) :
    entries ((key, some j) :: fields) = (key, j) :: entries fields := rfl

@[simp] lemma entries_cons_none : entries ((key, none) :: fields) = entries fields := rfl

lemma mem_entries {m : String × Json} : m ∈ entries fields ↔ (m.1, some m.2) ∈ fields := by
  simp only [entries, List.mem_filterMap, Option.map_eq_some_iff]
  refine ⟨?_, fun h => ⟨_, h, m.2, rfl, rfl⟩⟩
  rintro ⟨⟨k, o⟩, hmem, j, rfl, rfl⟩
  exact hmem

lemma length_entries : (entries fields).length = fields.countP (·.2.isSome) := by
  induction fields with
  | nil => rfl
  | cons f fields ih =>
    obtain ⟨k, _ | j⟩ := f
    · rw [entries_cons_none, ih, List.countP_cons_of_neg (by simp)]
    · rw [entries_cons_some, List.length_cons, ih, List.countP_cons_of_pos rfl]

lemma keys_entries : ((entries fields).map Prod.fst).Sublist (fields.map Prod.fst) := by
  induction fields with
  | nil => exact List.Sublist.slnil
  | cons f fields ih =>
    obtain ⟨k, _ | j⟩ := f
    · exact ih.cons k
    · exact ih.cons_cons k

/-- **An object of fields is well formed**, if the values that are present are counted. -/
lemma wellFormed_entries {len : ℕ} (hlen : fields.countP (·.2.isSome) = len)
    (hkeys : (fields.map Prod.fst).Nodup) (h : ∀ f ∈ fields, ∀ j, f.2 = some j → j.WellFormed) :
    (obj len (entries fields)).WellFormed := by
  refine .obj (length_entries.trans hlen) (keys_entries.nodup hkeys) fun m hm => ?_
  exact h _ (mem_entries.mp hm) m.2 rfl

end

lemma wellFormed_map {α : Type u} {l : List α} {write : α → Json}
    (h : ∀ a ∈ l, (write a).WellFormed) : (arr (l.map write)).WellFormed := by
  refine .arr fun x hx => ?_
  obtain ⟨a, ha, rfl⟩ := List.mem_map.mp hx
  exact h a ha

lemma wellFormed_some {j : Json} (h : j.WellFormed) : ∀ j', some j = some j' → j'.WellFormed := by
  rintro _ ⟨⟩
  exact h

lemma wellFormed_option {α : Type u} {write : α → Json} {o : Option α}
    (h : ∀ a, (write a).WellFormed) : ∀ j, o.map write = some j → j.WellFormed := by
  intro j hj
  obtain ⟨a, -, rfl⟩ := Option.map_eq_some_iff.mp hj
  exact h a

/-! ### Values that a reader cannot tell apart -/

/-- The same value, where the members of an object stand in any order at any depth. -/
inductive Same : Json → Json → Prop
  | refl (j : Json) : Same j j
  | arr {items items' : List Json} (h : List.Forall₂ Same items items') :
      Same (.arr items) (.arr items')
  | obj {len len' : ℕ} {members moved members' : List (String × Json)}
      (hperm : members.Perm moved) (hkeys : moved.map Prod.fst = members'.map Prod.fst)
      (h : List.Forall₂ Same (moved.map Prod.snd) (members'.map Prod.snd)) :
      Same (.obj len members) (.obj len' members')

section
variable {len len' : ℕ} {members members' : List (String × Json)}
  {fields fields' : List (String × Option Json)} {key : String} {j : Json}

lemma Same.str {s s' : String} (h : Same (.str s) (.str s')) : s = s' := by
  cases h
  rfl

lemma Same.num {n n' : ℤ} (h : Same (.num n) (.num n')) : n = n' := by
  cases h
  rfl

lemma Same.bool {b b' : Bool} (h : Same (.bool b) (.bool b')) : b = b' := by
  cases h
  rfl

lemma Same.items {items items' : List Json} (h : Same (.arr items) (.arr items')) :
    List.Forall₂ Same items items' := by
  cases h with
  | refl => exact List.forall₂_same.mpr fun j _ => .refl j
  | arr h => exact h

lemma mem_of_forall₂ (hkeys : members.map Prod.fst = members'.map Prod.fst)
    (h : List.Forall₂ Same (members.map Prod.snd) (members'.map Prod.snd)) :
    (∀ m ∈ members, ∃ j, (m.1, j) ∈ members' ∧ Same m.2 j) ∧
      ∀ m ∈ members', ∃ j, (m.1, j) ∈ members ∧ Same j m.2 := by
  induction members generalizing members' with
  | nil =>
    obtain rfl := List.map_eq_nil_iff.mp hkeys.symm
    exact ⟨List.forall_mem_nil _, List.forall_mem_nil _⟩
  | cons m members ih =>
    obtain ⟨m', members', rfl⟩ : ∃ m' rest, members' = m' :: rest := by
      cases members' with
      | nil => cases hkeys
      | cons m' rest => exact ⟨m', rest, rfl⟩
    obtain ⟨hkey, hkeys⟩ := List.cons.inj hkeys
    obtain ⟨hsame, h⟩ := List.forall₂_cons.mp h
    obtain ⟨hto, hfrom⟩ := ih hkeys h
    refine ⟨List.forall_mem_cons.mpr ⟨⟨m'.2, ?_, hsame⟩, fun n hn => ?_⟩,
      List.forall_mem_cons.mpr ⟨⟨m.2, ?_, hsame⟩, fun n hn => ?_⟩⟩
    · rw [hkey]
      exact List.mem_cons_self
    · obtain ⟨j, hj, hsame⟩ := hto n hn
      exact ⟨j, List.mem_cons_of_mem _ hj, hsame⟩
    · rw [← hkey]
      exact List.mem_cons_self
    · obtain ⟨j, hj, hsame⟩ := hfrom n hn
      exact ⟨j, List.mem_cons_of_mem _ hj, hsame⟩

lemma Same.mem (h : Same (.obj len members) (.obj len' members')) :
    (∀ m ∈ members, ∃ j, (m.1, j) ∈ members' ∧ Same m.2 j) ∧
      ∀ m ∈ members', ∃ j, (m.1, j) ∈ members ∧ Same j m.2 := by
  cases h with
  | refl => exact ⟨fun m hm => ⟨m.2, hm, .refl _⟩, fun m hm => ⟨m.2, hm, .refl _⟩⟩
  | obj hperm hkeys h =>
    obtain ⟨hto, hfrom⟩ := mem_of_forall₂ hkeys h
    refine ⟨fun m hm => hto m (hperm.mem_iff.mp hm), fun m hm => ?_⟩
    obtain ⟨j, hj, hsame⟩ := hfrom m hm
    exact ⟨j, hperm.mem_iff.mpr hj, hsame⟩

lemma field_unique {o o' : Option Json} (hkeys : (fields.map Prod.fst).Nodup)
    (h : (key, o) ∈ fields) (h' : (key, o') ∈ fields) : o = o' :=
  congrArg Prod.snd (List.inj_on_of_nodup_map hkeys h h' rfl)

lemma Same.field (h : Same (.obj len (entries fields)) (.obj len' (entries fields')))
    (hkeys : (fields.map Prod.fst).Nodup) (hkeys' : (fields'.map Prod.fst).Nodup)
    {o o' : Option Json} (ho : (key, o) ∈ fields) (ho' : (key, o') ∈ fields') :
    Option.Rel Same o o' := by
  obtain ⟨hto, hfrom⟩ := h.mem
  cases o with
  | some j =>
    obtain ⟨j', hj', hsame⟩ := hto (key, j) (mem_entries.mpr ho)
    rw [← field_unique hkeys' (mem_entries.mp hj') ho']
    exact .some hsame
  | none =>
    cases o' with
    | none => exact .none
    | some j' =>
      obtain ⟨j, hj, -⟩ := hfrom (key, j') (mem_entries.mpr ho')
      cases field_unique hkeys (mem_entries.mp hj) ho

/-- **The same objects have the same fields**, where no key is repeated. -/
lemma Same.values (h : Same (.obj len (entries fields)) (.obj len' (entries fields')))
    (hsame : fields.map Prod.fst = fields'.map Prod.fst) (hkeys : (fields.map Prod.fst).Nodup) :
    List.Forall₂ (Option.Rel Same) (fields.map Prod.snd) (fields'.map Prod.snd) := by
  have hlen := congrArg List.length hsame
  simp only [List.length_map] at hlen
  refine List.forall₂_iff_get.mpr ⟨by simpa using hlen, fun i hi hi' => ?_⟩
  rw [List.length_map] at hi hi'
  have hkey := List.getElem_of_eq hsame (by rwa [List.length_map])
  rw [List.getElem_map, List.getElem_map] at hkey
  have hmem : (fields[i].1, fields'[i].2) ∈ fields' := by
    rw [hkey]
    exact List.getElem_mem hi'
  simpa using h.field hkeys (hsame ▸ hkeys) (List.getElem_mem hi) hmem

end

/-! ### Writers that keep values apart -/

section
variable {α : Type u} {write : α → Json}

/-- What is written for two values is the same only if they are equal. -/
def Apart (write : α → Json) (a b : α) : Prop := Same (write a) (write b) → a = b

lemma Apart.text {text : α → String} (h : ∀ a b, text a = text b → a = b) (a b : α) :
    Apart (fun a => .str (text a)) a b :=
  fun hsame => h a b hsame.str

lemma Apart.option {o o' : Option α} (h : ∀ a, o = some a → ∀ b, o' = some b → Apart write a b)
    (hsame : Option.Rel Same (o.map write) (o'.map write)) : o = o' := by
  cases o with
  | none =>
    cases o' with
    | none => rfl
    | some b => cases hsame
  | some a =>
    cases o' with
    | none => cases hsame
    | some b => exact congrArg some (h a rfl b rfl (Option.rel_some_some.mp hsame))

lemma Apart.list {l l' : List α} (h : ∀ a ∈ l, ∀ b ∈ l', Apart write a b)
    (hsame : List.Forall₂ Same (l.map write) (l'.map write)) : l = l' := by
  induction l generalizing l' with
  | nil =>
    cases l' with
    | nil => rfl
    | cons b l' => cases hsame
  | cons a l ih =>
    cases l' with
    | nil => cases hsame
    | cons b l' =>
      obtain ⟨hhead, hsame⟩ := List.forall₂_cons.mp hsame
      obtain ⟨ha, hl⟩ := List.forall_mem_cons.mp h
      rw [ha b List.mem_cons_self hhead,
        ih (fun a ha b hb => hl a ha b (List.mem_cons_of_mem _ hb)) hsame]

lemma Apart.arr {l l' : List α} (h : ∀ a ∈ l, ∀ b ∈ l', Apart write a b) :
    Apart (fun l => Json.arr (l.map write)) l l' :=
  fun hsame => Apart.list h hsame.items

end

end Json

end Caden
