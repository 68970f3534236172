import Mathlib.Data.List.Nodup

/-! Insertion-ordered tables with one row per key. The key is read off the row,
so a row can never sit under another row's key, and an update of a present key
keeps the row's place. Lookups, upserts and deletions are characterized by the
rows they hold; no statement depends on the order of insertion unless it says
so. -/

namespace RouteShield

variable {α κ : Type}

/-- Rows with pairwise distinct keys, in insertion order. -/
structure Table (key : α → κ) where
  rows : List α
  nodup : (rows.map key).Nodup

namespace Table

variable {key : α → κ}

instance : Membership α (Table key) := ⟨fun t a => a ∈ t.rows⟩

theorem mem_def (t : Table key) (a : α) : a ∈ t ↔ a ∈ t.rows := Iff.rfl

@[ext] theorem ext {t u : Table key} (h : t.rows = u.rows) : t = u := by
  cases t; cases u; cases h; rfl

instance [DecidableEq α] : DecidableEq (Table key) := fun t u =>
  decidable_of_iff (t.rows = u.rows) ⟨ext, fun h => h ▸ rfl⟩

instance [DecidableEq α] (a : α) (t : Table key) : Decidable (a ∈ t) :=
  inferInstanceAs (Decidable (a ∈ t.rows))

/-- Two rows with the same key are the same row. -/
theorem key_inj (t : Table key) {a b : α} (ha : a ∈ t) (hb : b ∈ t) (h : key a = key b) : a = b :=
  List.inj_on_of_nodup_map t.nodup ha hb h

def empty : Table key := ⟨[], List.nodup_nil⟩

instance : Inhabited (Table key) := ⟨empty⟩

@[simp] theorem empty_rows : (empty : Table key).rows = [] := rfl

@[simp] theorem notMem_empty (a : α) : a ∉ (empty : Table key) := List.not_mem_nil

/-- Keep the rows that satisfy `p`. -/
def filter (t : Table key) (p : α → Bool) : Table key :=
  ⟨t.rows.filter p, t.nodup.sublist (List.filter_sublist.map key)⟩

@[simp] theorem filter_rows (t : Table key) (p : α → Bool) : (t.filter p).rows = t.rows.filter p := rfl

@[simp] theorem mem_filter (t : Table key) (p : α → Bool) (a : α) :
    a ∈ t.filter p ↔ a ∈ t ∧ p a = true := List.mem_filter

/-- The keys of the rows that satisfy `p` are those of no other row. -/
theorem key_mem_filter (t : Table key) {a : α} (ha : a ∈ t) (p : α → Bool) :
    key a ∈ (t.rows.filter p).map key ↔ p a = true := by
  constructor
  · intro h
    obtain ⟨b, hb, hkey⟩ := List.mem_map.mp h
    obtain ⟨hmem, hp⟩ := List.mem_filter.mp hb
    exact t.key_inj hmem ha hkey ▸ hp
  · exact fun hp => List.mem_map_of_mem (List.mem_filter.mpr ⟨ha, hp⟩)

theorem filter_eq_self (t : Table key) (p : α → Bool) (h : ∀ a ∈ t, p a = true) : t.filter p = t :=
  ext (List.filter_eq_self.mpr h)

theorem decide_key_notMem_filter [DecidableEq κ] (t : Table key) {a : α} (ha : a ∈ t)
    (p : α → Bool) : decide (key a ∉ (t.rows.filter p).map key) = !p a := by
  rw [Bool.eq_iff_iff, decide_eq_true_eq, t.key_mem_filter ha, Bool.not_eq_true', Bool.not_eq_true]

/-- Where the rows under the keys of the rows that satisfy `p` go, no row satisfies `p`. -/
theorem filter_filter_notMem [DecidableEq κ] (t : Table key) (p : α → Bool) :
    (t.filter (fun a => key a ∉ (t.rows.filter p).map key)).rows.filter p = [] := by
  refine List.filter_eq_nil_iff.mpr fun a ha hp => ?_
  obtain ⟨hmem, hout⟩ := (mem_filter t _ a).mp ha
  exact of_decide_eq_true hout ((t.key_mem_filter hmem p).mpr hp)

/-! ### References from one table to another -/

section Refers

variable {β κ' : Type} {key' : β → κ'} {t : Table key} {u : Table key'} {f : α → κ'}

/-- Every row refers to a row that is stored. -/
def Refers (t : Table key) (f : α → κ') (u : Table key') : Prop :=
  ∀ a ∈ t, ∃ b ∈ u, key' b = f a

instance [DecidableEq κ'] : Decidable (t.Refers f u) :=
  inferInstanceAs (Decidable (∀ a ∈ t.rows, ∃ b ∈ u.rows, key' b = f a))

theorem Refers.filter_left (h : t.Refers f u) (p : α → Bool) : (t.filter p).Refers f u :=
  fun a ha => h a ((mem_filter t p a).mp ha).1

/-- Where the rows under some keys go, the references hold when no row refers to these keys. -/
theorem refers_filter_iff [DecidableEq κ'] (h : t.Refers f u) (ks : List κ') :
    t.Refers f (u.filter (fun b => key' b ∉ ks)) ↔ ∀ a ∈ t, f a ∉ ks := by
  refine forall₂_congr fun a ha => ?_
  obtain ⟨b, hb, hkey⟩ := h a ha
  constructor
  · rintro ⟨b', hb', hkey'⟩
    exact hkey' ▸ of_decide_eq_true ((mem_filter u _ b').mp hb').2
  · exact fun hout => ⟨b, (mem_filter u _ b).mpr ⟨hb, decide_eq_true (hkey ▸ hout)⟩, hkey⟩

/-- Rows that refer to some keys go with the rows under these keys. -/
theorem Refers.drop [DecidableEq κ'] (h : t.Refers f u) (ks : List κ') :
    (t.filter (fun a => f a ∉ ks)).Refers f (u.filter (fun b => key' b ∉ ks)) :=
  (refers_filter_iff (h.filter_left _) ks).mpr
    fun a ha => of_decide_eq_true ((mem_filter t _ a).mp ha).2

end Refers

section Lookup

variable [DecidableEq κ]

/-- The row stored under a key. -/
def find? (t : Table key) (k : κ) : Option α := t.rows.find? (fun a => key a = k)

theorem find?_eq_some (t : Table key) {k : κ} {a : α} :
    t.find? k = some a ↔ a ∈ t ∧ key a = k := by
  constructor
  · intro h
    exact ⟨List.mem_of_find?_eq_some h, by simpa using List.find?_some h⟩
  · rintro ⟨ha, hk⟩
    cases h : t.find? k with
    | none =>
      have hn := List.find?_eq_none.mp h a ha
      simp [hk] at hn
    | some b =>
      have hb : key b = k := by simpa using List.find?_some h
      rw [t.key_inj (List.mem_of_find?_eq_some h) ha (hb.trans hk.symm)]

theorem find?_eq_none (t : Table key) {k : κ} : t.find? k = none ↔ ∀ a ∈ t, key a ≠ k := by
  simp [find?, mem_def]

theorem find?_key (t : Table key) {a : α} (h : a ∈ t) : t.find? (key a) = some a :=
  t.find?_eq_some.mpr ⟨h, rfl⟩

/-- Equal contents give equal lookups. -/
theorem find?_congr {t u : Table key} {k : κ} (h : ∀ a, key a = k → (a ∈ t ↔ a ∈ u)) :
    t.find? k = u.find? k := by
  cases hu : u.find? k with
  | none =>
    rw [find?_eq_none] at hu ⊢
    exact fun a ha hk => hu a ((h a hk).mp ha) hk
  | some b =>
    rw [find?_eq_some] at hu ⊢
    exact ⟨(h b hu.2).mpr hu.1, hu.2⟩

theorem isSome_find?_filter (t : Table key) (p : α → Bool) (k : κ) :
    ((t.filter p).find? k).isSome = true ↔ ∃ a ∈ t, key a = k ∧ p a = true := by
  rw [Option.isSome_iff_exists]
  refine exists_congr fun a => ?_
  rw [find?_eq_some, mem_filter, and_assoc, and_comm (a := p a = true)]

theorem find?_filter (t : Table key) (p : α → Bool) (k : κ) :
    (t.filter p).find? k = (t.find? k).filter p := by
  cases hfind : t.find? k with
  | none =>
    have hnone := t.find?_eq_none.mp hfind
    exact (find?_eq_none _).mpr fun b hb => hnone b ((mem_filter t p b).mp hb).1
  | some b =>
    obtain ⟨hb, rfl⟩ := t.find?_eq_some.mp hfind
    by_cases hp : p b = true
    · rw [Option.filter_some, if_pos hp]
      exact find?_key _ ((mem_filter t p b).mpr ⟨hb, hp⟩)
    · rw [Option.filter_some, if_neg hp, find?_eq_none]
      intro b' hb' hid
      obtain ⟨hmem, hp'⟩ := (mem_filter t p b').mp hb'
      rw [t.key_inj hmem hb hid] at hp'
      exact hp hp'

/-- Rows that are kept by looking up what they refer to. -/
theorem refers_of_isSome {β : Type} {key' : β → κ} {t : Table key'} {f : β → κ}
    {u : Table key} : (t.filter (fun b => (u.find? (f b)).isSome)).Refers f u := by
  intro b hb
  obtain ⟨a, ha⟩ := Option.isSome_iff_exists.mp ((mem_filter t _ b).mp hb).2
  exact ⟨a, u.find?_eq_some.mp ha⟩

@[simp] theorem find?_empty (k : κ) : (empty : Table key).find? k = none := rfl

/-- Replace the row in place when its key is present, else append it. -/
def put (t : Table key) (a : α) : Table key where
  rows := if key a ∈ t.rows.map key then t.rows.map (fun b => if key b = key a then a else b)
    else t.rows ++ [a]
  nodup := by
    split_ifs with h
    · have hk : ∀ b, key (if key b = key a then a else b) = key b := by
        intro b; split_ifs with hb
        · exact hb.symm
        · rfl
      simpa only [List.map_map, Function.comp_def, hk] using t.nodup
    · rw [List.map_append, List.nodup_append]
      refine ⟨t.nodup, by simp, ?_⟩
      simp only [List.map_cons, List.map_nil, List.mem_singleton]
      rintro x hx _ rfl rfl
      exact h hx

@[simp] theorem mem_put (t : Table key) (a b : α) :
    b ∈ t.put a ↔ b = a ∨ (b ∈ t ∧ key b ≠ key a) := by
  simp only [mem_def, put]
  split_ifs with h
  · simp only [List.mem_map] at h ⊢
    constructor
    · rintro ⟨c, hc, rfl⟩
      split_ifs with hk
      · exact .inl rfl
      · exact .inr ⟨hc, hk⟩
    · rintro (rfl | ⟨hb, hk⟩)
      · obtain ⟨c, hc, hk⟩ := h
        exact ⟨c, hc, by simp [hk]⟩
      · exact ⟨b, hb, by simp [hk]⟩
  · have hn : ∀ c ∈ t.rows, key c ≠ key a := fun c hc hk => h (List.mem_map.mpr ⟨c, hc, hk⟩)
    simp only [List.mem_append, List.mem_singleton]
    constructor
    · rintro (hb | rfl)
      · exact .inr ⟨hb, hn b hb⟩
      · exact .inl rfl
    · rintro (rfl | ⟨hb, -⟩)
      · exact .inr rfl
      · exact .inl hb

theorem mem_put_self (t : Table key) (a : α) : a ∈ t.put a := by simp

@[simp] theorem find?_put_self (t : Table key) (a : α) : (t.put a).find? (key a) = some a :=
  find?_key _ (mem_put_self t a)

theorem find?_put_of_ne (t : Table key) {a : α} {k : κ} (h : k ≠ key a) :
    (t.put a).find? k = t.find? k := by
  apply find?_congr
  intro b hb
  subst hb
  simp only [mem_put]
  constructor
  · rintro (rfl | ⟨hb, -⟩)
    · exact absurd rfl h
    · exact hb
  · exact fun hb => .inr ⟨hb, h⟩

theorem find?_put (t : Table key) (a : α) (k : κ) :
    (t.put a).find? k = if k = key a then some a else t.find? k := by
  split_ifs with h
  · subst h; simp
  · exact t.find?_put_of_ne h

theorem find?_put_update (t : Table key) (a : α) :
    (t.put a).find? = Function.update t.find? (key a) (some a) := by
  funext k
  rw [find?_put, Function.update_apply]

/-- A row under a new key goes to the end. -/
theorem rows_put (t : Table key) {a : α} (h : t.find? (key a) = none) :
    (t.put a).rows = t.rows ++ [a] := by
  refine if_neg fun hmem => ?_
  obtain ⟨b, hb, hkey⟩ := List.mem_map.mp hmem
  exact (find?_eq_none t).mp h b hb hkey

/-- An upsert adds its row to a selection of the rows in which its key is new. -/
theorem filter_rows_put (t : Table key) {a : α} {p : α → Bool}
    (h : ∀ b ∈ t, p b = true → key b ≠ key a) :
    ((t.put a).rows.filter p).Perm (if p a then a :: t.rows.filter p else t.rows.filter p) := by
  have hnodup : ∀ u : Table key, u.rows.Nodup := fun u => List.Nodup.of_map key u.nodup
  have hnew : a ∉ t.rows.filter p := fun ha =>
    h a (List.mem_filter.mp ha).1 (List.mem_filter.mp ha).2 rfl
  have hmem : ∀ b, b ∈ (t.put a).rows.filter p ↔ (b = a ∧ p a = true) ∨ b ∈ t.rows.filter p := by
    intro b
    rw [List.mem_filter, List.mem_filter, ← mem_def, mem_put, mem_def]
    constructor
    · rintro ⟨rfl | ⟨hb, -⟩, hp⟩
      · exact .inl ⟨rfl, hp⟩
      · exact .inr ⟨hb, hp⟩
    · rintro (⟨rfl, hp⟩ | ⟨hb, hp⟩)
      · exact ⟨.inl rfl, hp⟩
      · exact ⟨.inr ⟨hb, h b hb hp⟩, hp⟩
  split_ifs with hp
  · refine (List.perm_ext_iff_of_nodup ((hnodup _).filter p)
      (List.nodup_cons.mpr ⟨hnew, (hnodup t).filter p⟩)).mpr fun b => ?_
    rw [hmem, List.mem_cons, and_iff_left hp]
  · refine (List.perm_ext_iff_of_nodup ((hnodup _).filter p) ((hnodup t).filter p)).mpr fun b => ?_
    rw [hmem, or_iff_right fun hb => hp hb.2]

/-- Upserts under distinct keys, one after the other. -/
theorem mem_foldl_put_iff {rows : List α} (h : (rows.map key).Nodup) (t : Table key) {b : α} :
    b ∈ rows.foldl put t ↔ b ∈ rows ∨ (b ∈ t ∧ key b ∉ rows.map key) := by
  induction rows generalizing t with
  | nil => simp
  | cons a rows ih =>
    obtain ⟨ha, hrows⟩ := List.nodup_cons.mp h
    rw [List.foldl_cons, ih hrows, mem_put, List.mem_cons, List.map_cons, List.mem_cons]
    constructor
    · rintro (hb | ⟨rfl | ⟨hb, hne⟩, hk⟩)
      · exact .inl (.inr hb)
      · exact .inl (.inl rfl)
      · exact .inr ⟨hb, not_or.mpr ⟨hne, hk⟩⟩
    · rintro ((rfl | hb) | ⟨hb, hk⟩)
      · exact .inr ⟨.inl rfl, ha⟩
      · exact .inl hb
      · exact .inr ⟨.inr ⟨hb, (not_or.mp hk).1⟩, (not_or.mp hk).2⟩

/-- Drop the row stored under a key. -/
def erase (t : Table key) (k : κ) : Table key := t.filter (fun a => key a ≠ k)

@[simp] theorem mem_erase (t : Table key) (k : κ) (a : α) : a ∈ t.erase k ↔ a ∈ t ∧ key a ≠ k := by
  simp [erase]

theorem find?_erase (t : Table key) (k j : κ) :
    (t.erase k).find? j = if j = k then none else t.find? j := by
  split_ifs with h
  · subst h
    exact (find?_eq_none _).mpr (fun a ha => ((mem_erase t _ a).mp ha).2)
  · apply find?_congr
    intro a ha
    subst ha
    simp [h]

/-- Add a row under a new key; a key that is taken is refused. -/
def insert (t : Table key) (a : α) : Option (Table key) :=
  if (t.find? (key a)).isSome then none else some (t.put a)

theorem insert_eq_some {t u : Table key} {a : α} :
    t.insert a = some u ↔ t.find? (key a) = none ∧ u = t.put a := by
  unfold insert
  split_ifs with h
  · simp only [false_iff, not_and]
    intro hn
    simp [hn] at h
  · simp only [Option.not_isSome_iff_eq_none] at h
    simp [h, eq_comm]

/-- Add the rows of a list, or none of them. -/
def insertAll (t : Table key) (rows : List α) : Option (Table key) := rows.foldlM insert t

/-- Rows under new keys go to the end. -/
theorem insertAll_of_nodup (t : Table key) {rows : List α}
    (h : ((t.rows ++ rows).map key).Nodup) :
    ∃ u, t.insertAll rows = some u ∧ u.rows = t.rows ++ rows := by
  induction rows generalizing t with
  | nil => exact ⟨t, rfl, (List.append_nil _).symm⟩
  | cons a rows ih =>
    have hnew : t.find? (key a) = none := by
      refine t.find?_eq_none.mpr fun b hb hkey => ?_
      rw [List.map_append, List.nodup_append] at h
      exact h.2.2 (key b) (List.mem_map_of_mem hb) (key a) List.mem_cons_self hkey
    have hrows := t.rows_put hnew
    obtain ⟨u, hu, hsame⟩ := ih (t.put a) (by rwa [hrows, List.append_assoc])
    refine ⟨u, ?_, by rw [hsame, hrows, List.append_assoc, List.singleton_append]⟩
    have hinsert : t.insert a = some (t.put a) := insert_eq_some.mpr ⟨hnew, rfl⟩
    rw [insertAll, List.foldlM_cons, hinsert]
    exact hu

/-- Rows are taken exactly when their keys are new and differ, and go to the end. -/
theorem insertAll_eq_some {t u : Table key} {rows : List α} :
    t.insertAll rows = some u ↔ ((t.rows ++ rows).map key).Nodup ∧ u.rows = t.rows ++ rows := by
  have hnodup : ∀ {t u : Table key}, t.insertAll rows = some u →
      ((t.rows ++ rows).map key).Nodup := by
    induction rows with
    | nil =>
      intro t u _
      rw [List.append_nil]
      exact t.nodup
    | cons a rows ih =>
      intro t u h
      rw [insertAll, List.foldlM_cons] at h
      obtain ⟨t', ht', h⟩ := Option.bind_eq_some_iff.mp h
      obtain ⟨hnew, rfl⟩ := insert_eq_some.mp ht'
      have hrest := ih h
      rwa [t.rows_put hnew, List.append_assoc] at hrest
  constructor
  · intro h
    obtain ⟨u', hu', hrows⟩ := t.insertAll_of_nodup (hnodup h)
    rw [h] at hu'
    cases hu'
    exact ⟨hnodup h, hrows⟩
  · rintro ⟨h, hrows⟩
    obtain ⟨u', hu', hrows'⟩ := t.insertAll_of_nodup h
    rw [hu', ext (hrows'.trans hrows.symm)]

/-- An upsert takes the row's key from the others. -/
theorem rows_put_perm (t : Table key) (a : α) :
    (t.put a).rows.Perm ((t.erase (key a)).rows ++ [a]) := by
  refine (List.perm_ext_iff_of_nodup (List.Nodup.of_map key (t.put a).nodup) ?_).mpr fun b => ?_
  · rw [List.nodup_append]
    refine ⟨List.Nodup.of_map key (t.erase (key a)).nodup, List.nodup_singleton a, ?_⟩
    rintro b hb _ hc rfl
    rw [List.mem_singleton.mp hc] at hb
    exact ((mem_erase t _ a).mp hb).2 rfl
  · rw [← mem_def, mem_put, List.mem_append, ← mem_def, mem_erase, List.mem_singleton]
    exact or_comm

end Lookup

end Table

/-! ### Lists filed under a key -/

/-- A list filed under a key. -/
structure Bucket (κ α : Type) where
  id : κ
  items : List α
  deriving DecidableEq

namespace Table

variable [DecidableEq κ] (t : Table (Bucket.id (κ := κ) (α := α)))

/-- The list under a key, empty when there is none. -/
def items (k : κ) : List α := ((t.find? k).map Bucket.items).getD []

/-- Lists that are dropped by their keys. -/
theorem items_filter (p : κ → Bool) (k : κ) :
    (t.filter (fun b => p b.id)).items k = if p k = true then t.items k else [] := by
  rw [items, find?_filter]
  cases hfind : t.find? k with
  | none => simp [items, hfind]
  | some b =>
    obtain ⟨-, rfl⟩ := t.find?_eq_some.mp hfind
    rw [Option.filter_some]
    split_ifs <;> simp [items, hfind]

/-- Append to the list under a key. -/
def push (k : κ) (a : α) : Table (Bucket.id (κ := κ) (α := α)) := t.put ⟨k, t.items k ++ [a]⟩

theorem items_push (k : κ) (a : α) :
    (t.push k a).items = Function.update t.items k (t.items k ++ [a]) := by
  funext j
  rw [items, push, find?_put, Function.update_apply]
  split_ifs <;> rfl

end Table

end RouteShield
