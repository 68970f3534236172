import RouteShield.Lib.Table

/-!
One collection kept in two tables. A table mirrors another when its rows are the other's in a
shape of their own, in the same order and under the same keys. A flat table files the lists of
another when its rows of each group are the list under the group's key. Both relations are kept
when the two tables take the same rows, and a lookup in one is answered by the other.
-/

namespace RouteShield

namespace Table

variable {α β κ κ' : Type}

/-! ### Rows in another shape -/

section Mirrors

variable {key : α → κ} {key' : β → κ} {f : α → β} {t : Table key} {u : Table key'}

/-- The rows of the second table are those of the first, each in its other shape. -/
def Mirrors (f : α → β) (t : Table key) (u : Table key') : Prop := u.rows = t.rows.map f

theorem mirrors_empty : (empty : Table key).Mirrors f (empty : Table key') := rfl

theorem Mirrors.rows_filter (h : t.Mirrors f u) {p : α → Bool} {q : β → Bool}
    (hpq : ∀ a, q (f a) = p a) : u.rows.filter q = (t.rows.filter p).map f := by
  rw [h, List.filter_map]
  exact congrArg (List.map f) (List.filter_congr fun a _ => hpq a)

theorem Mirrors.filter (h : t.Mirrors f u) {p : α → Bool} {q : β → Bool}
    (hpq : ∀ a, q (f a) = p a) : (t.filter p).Mirrors f (u.filter q) :=
  h.rows_filter hpq

/-- What a selection of the rows holds, read off either table. -/
theorem Mirrors.map_filter (h : t.Mirrors f u) {p : α → Bool} {q : β → Bool} {γ : Type}
    {g : α → γ} {g' : β → γ} (hpq : ∀ a, q (f a) = p a) (hg : ∀ a, g' (f a) = g a) :
    (u.rows.filter q).map g' = (t.rows.filter p).map g := by
  rw [h.rows_filter hpq, List.map_map]
  exact List.map_congr_left fun a _ => hg a

/-- Where the selected rows are within a limit, the limit may come before a further selection or
after it. -/
theorem Mirrors.take_filter (h : t.Mirrors f u) {p p' : α → Bool} {q q' : β → Bool}
    (hpq : ∀ a, q (f a) = p a) (hpq' : ∀ a, q' (f a) = p' a) {limit : ℕ}
    (hlimit : (t.rows.filter p).length ≤ limit) :
    ((u.rows.filter q).take limit).filter q' =
      ((t.rows.filter (fun a => p a && p' a)).take limit).map f := by
  have hboth : t.rows.filter (fun a => p a && p' a) = (t.rows.filter p).filter p' := by
    rw [List.filter_filter]
    exact List.filter_congr fun a _ => Bool.and_comm _ _
  rw [h.rows_filter hpq, List.take_of_length_le (by rwa [List.length_map]), hboth,
    List.take_of_length_le (Nat.le_trans (List.length_filter_le _ _) hlimit), List.filter_map]
  exact congrArg (List.map f) (List.filter_congr fun a _ => hpq' a)

/-- What is made of the selected rows one by one, with a counter. -/
theorem Mirrors.take_filter_zipIdx (h : t.Mirrors f u) (q q' : β → Bool) (g : α × ℕ → α)
    (g' : β × ℕ → β) {p p' : α → Bool} (hpq : ∀ a, q (f a) = p a) (hpq' : ∀ a, q' (f a) = p' a)
    {limit : ℕ} (hlimit : (t.rows.filter p).length ≤ limit)
    (hg : ∀ a i, g' (f a, i) = f (g (a, i))) :
    (((u.rows.filter q).take limit).filter q').zipIdx.map g' =
      (((t.rows.filter (fun a => p a && p' a)).take limit).zipIdx.map g).map f := by
  rw [h.take_filter hpq hpq' hlimit, List.zipIdx_map, List.map_map, List.map_map]
  exact List.map_congr_left fun a _ => hg a.1 a.2

variable [DecidableEq κ]

theorem Mirrors.find? (h : t.Mirrors f u) (hkey : ∀ a, key' (f a) = key a) (k : κ) :
    u.find? k = (t.find? k).map f := by
  unfold Table.find?
  rw [h, List.find?_map]
  refine congrArg (Option.map f) (congrArg (List.find? · t.rows) (funext fun a => ?_))
  show decide (key' (f a) = k) = decide (key a = k)
  rw [hkey a]

theorem Mirrors.put (h : t.Mirrors f u) (hkey : ∀ a, key' (f a) = key a) (a : α) :
    (t.put a).Mirrors f (u.put (f a)) := by
  have hkeys : u.rows.map key' = t.rows.map key := by
    rw [h, List.map_map]
    exact List.map_congr_left fun b _ => hkey b
  show (if key' (f a) ∈ u.rows.map key' then
      u.rows.map (fun b => if key' b = key' (f a) then f a else b) else u.rows ++ [f a]) =
    (if key a ∈ t.rows.map key then t.rows.map (fun b => if key b = key a then a else b)
      else t.rows ++ [a]).map f
  rw [hkeys, hkey a]
  split_ifs with hmem
  · rw [h, List.map_map, List.map_map]
    refine List.map_congr_left fun b _ => ?_
    show (if key' (f b) = key a then f a else f b) = f (if key b = key a then a else b)
    rw [hkey b, apply_ite f]
  · rw [h, List.map_append, List.map_singleton]

/-- A row under a new key is inserted into the other table too. -/
theorem Mirrors.insert (h : t.Mirrors f u) (hkey : ∀ a, key' (f a) = key a) {a : α}
    (hnew : t.find? (key a) = none) : u.insert (f a) = some (u.put (f a)) := by
  refine insert_eq_some.mpr ⟨?_, rfl⟩
  rw [h.find? hkey, hkey a, hnew]
  rfl

theorem Mirrors.foldl_put (h : t.Mirrors f u) (hkey : ∀ a, key' (f a) = key a) {rows : List α}
    {rows' : List β} (hrows : rows' = rows.map f) :
    (rows.foldl Table.put t).Mirrors f (rows'.foldl Table.put u) := by
  subst hrows
  induction rows generalizing t u with
  | nil => exact h
  | cons a rows ih => exact ih (h.put hkey a)

end Mirrors

/-! ### Lists in one flat table -/

section Files

variable [DecidableEq κ] {key' : β → κ'} {group : β → κ} {item : β → α}
  {t : Table (Bucket.id (κ := κ) (α := α))} {u : Table key'}

/-- The rows of each group are the list under the group's key. -/
def Files (group : β → κ) (item : β → α) (t : Table (Bucket.id (κ := κ) (α := α)))
    (u : Table key') : Prop :=
  ∀ k, (u.rows.filter (fun b => group b = k)).map item = t.items k

theorem files_empty :
    (empty : Table (Bucket.id (κ := κ) (α := α))).Files group item (empty : Table key') :=
  fun _ => rfl

/-- The item of a row is in the list of the row's group. -/
theorem Files.mem_items (h : t.Files group item u) {b : β} (hb : b ∈ u) :
    ∃ bucket ∈ t, bucket.id = group b ∧ item b ∈ bucket.items := by
  have hmem : item b ∈ t.items (group b) := by
    rw [← h (group b)]
    exact List.mem_map_of_mem (List.mem_filter.mpr ⟨hb, decide_eq_true rfl⟩)
  cases hfind : t.find? (group b) with
  | none => rw [items, hfind] at hmem; cases hmem
  | some bucket =>
    rw [items, hfind] at hmem
    obtain ⟨hin, hid⟩ := t.find?_eq_some.mp hfind
    exact ⟨bucket, hin, hid, hmem⟩

/-- A key that no item of any list has is new to the flat table. -/
theorem Files.find?_eq_none [DecidableEq κ'] (h : t.Files group item u) (itemKey : α → κ')
    (hkey : ∀ b, key' b = itemKey (item b)) {k : κ'}
    (hnew : ∀ bucket ∈ t.rows, ∀ a ∈ bucket.items, itemKey a ≠ k) : u.find? k = none := by
  refine u.find?_eq_none.mpr fun b hb hk => ?_
  obtain ⟨bucket, hin, -, hmem⟩ := h.mem_items hb
  exact hnew bucket hin (item b) hmem ((hkey b).symm.trans hk)

/-- A row under a new key ends the list of its group. -/
theorem Files.push [DecidableEq κ'] (h : t.Files group item u) {b : β}
    (hnew : u.find? (key' b) = none) : (t.push (group b) (item b)).Files group item (u.put b) := by
  intro k
  rw [u.rows_put hnew, List.filter_append, List.map_append, h k, items_push, Function.update_apply]
  split_ifs with hk
  · rw [List.filter_singleton, decide_eq_true hk.symm, ← hk]
    rfl
  · rw [List.filter_singleton, decide_eq_false (Ne.symm hk)]
    exact List.append_nil _

/-- The rows of a group are replaced by those of a new list. -/
theorem Files.replace [DecidableEq κ'] (h : t.Files group item u) {k : κ} {rows : List β}
    (hrows : ∀ b ∈ rows, group b = k) {p : β → Bool} (hp : ∀ b ∈ u, p b = decide (group b ≠ k))
    {u' : Table key'} (hu : (u.filter p).insertAll rows = some u') :
    (t.put ⟨k, rows.map item⟩).Files group item u' := by
  intro j
  have hp' : u.rows.filter p = u.rows.filter (fun b => decide (group b ≠ k)) :=
    List.filter_congr hp
  rw [(insertAll_eq_some.mp hu).2, List.filter_append, List.map_append, filter_rows, hp',
    List.filter_filter, items, find?_put]
  split_ifs with hj
  · have hnone : u.rows.filter (fun b => decide (group b = j) && decide (group b ≠ k)) = [] :=
      List.filter_eq_nil_iff.mpr fun b _ hb => by simp [hj] at hb
    have hall : rows.filter (fun b => decide (group b = j)) = rows :=
      List.filter_eq_self.mpr fun b hb => decide_eq_true ((hrows b hb).trans hj.symm)
    rw [hnone, hall]
    rfl
  · have hsame : u.rows.filter (fun b => decide (group b = j) && decide (group b ≠ k)) =
        u.rows.filter (fun b => decide (group b = j)) := by
      refine List.filter_congr fun b _ => ?_
      by_cases hb : group b = j
      · simp [hb, hj]
      · simp [hb]
    have hnone : rows.filter (fun b => decide (group b = j)) = [] :=
      List.filter_eq_nil_iff.mpr fun b hb hbj =>
        hj ((of_decide_eq_true hbj).symm.trans (hrows b hb))
    rw [hsame, hnone, h j]
    exact List.append_nil _

end Files

end Table

end RouteShield
