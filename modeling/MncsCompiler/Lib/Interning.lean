import Mathlib.Data.List.Nodup

/-!
# `Lib.Interning` — tables of distinct keys

Keys enter a table one after the other, each when it is fit, when no key of the table is the same, and when there is
room. The table then holds every fit key up to sameness, unless it is full, and it is full before all keys are in exactly
when more keys differ than it has room for (`covers_iff`). Entries are numbered in the order in which they came.
-/

namespace Interning

variable {α β : Type*} (same : α → α → Bool) (fit : α → Bool) (room : Nat)

/-- A key comes to a table, the newest key first. -/
def insert (table : List α) (key : α) : List α :=
  if !fit key || table.any (fun entry => same entry key) || decide (table.length ≥ room) then table else key :: table

def intern (table keys : List α) : List α := keys.foldl (insert same fit room) table

/-- Keys of which no two are the same. -/
def Different (keys : List α) : Prop := keys.Pairwise fun a b => same b a = false

theorem intern_append (table first second : List α) :
    intern same fit room table (first ++ second) = intern same fit room (intern same fit room table first) second :=
  List.foldl_append

variable {same fit room} {table keys : List α}

theorem insert_cases (table : List α) (key : α) :
    (insert same fit room table key = table ∧
      (fit key = false ∨ (∃ entry ∈ table, same entry key = true) ∨ room ≤ table.length)) ∨
    (insert same fit room table key = key :: table ∧ fit key = true ∧ (∀ entry ∈ table, same entry key = false) ∧
      table.length < room) := by
  unfold insert
  by_cases hfit : fit key = true
  · by_cases hold : table.any (fun entry => same entry key) = true
    · left
      rw [if_pos (by simp [hold])]
      exact ⟨rfl, .inr (.inl (List.any_eq_true.mp hold))⟩
    · by_cases hfull : room ≤ table.length
      · left
        rw [if_pos (by simp [hfull])]
        exact ⟨rfl, .inr (.inr hfull)⟩
      · right
        rw [if_neg (by simp [hfit, hfull]; simpa using hold)]
        refine ⟨rfl, hfit, ?_, Nat.not_le.mp hfull⟩
        intro entry hmem
        simpa using (List.any_eq_false.mp (by simpa using hold)) entry hmem
  · left
    rw [if_pos (by simp [hfit])]
    exact ⟨rfl, .inl (by simpa using hfit)⟩

/-- A well-formed table: fit keys of which no two are the same, no more than there is room for. -/
structure Table (same : α → α → Bool) (fit : α → Bool) (room : Nat) (table : List α) : Prop where
  fit : ∀ entry ∈ table, fit entry = true
  different : Different same table
  length_le : table.length ≤ room

theorem Table.nil : Table same fit room [] :=
  ⟨fun _ hmem => absurd hmem List.not_mem_nil, List.Pairwise.nil, Nat.zero_le _⟩

theorem Table.insert (h : Table same fit room table) (key : α) :
    Table same fit room (insert same fit room table key) := by
  rcases @insert_cases α same fit room table key with ⟨heq, -⟩ | ⟨heq, hfit, hnew, hroom⟩
  · rw [heq]
    exact h
  · rw [heq]
    refine ⟨?_, List.pairwise_cons.mpr ⟨hnew, h.different⟩, hroom⟩
    intro entry hmem
    rcases List.mem_cons.mp hmem with rfl | hmem
    · exact hfit
    · exact h.fit entry hmem

theorem Table.intern (h : Table same fit room table) (keys : List α) :
    Table same fit room (intern same fit room table keys) := by
  induction keys generalizing table with
  | nil => exact h
  | cons key rest ih => exact ih (h.insert key)

/-- Nothing leaves a table. -/
theorem suffix_intern (table keys : List α) : table <:+ intern same fit room table keys := by
  induction keys generalizing table with
  | nil => exact List.suffix_refl table
  | cons key rest ih =>
      refine List.IsSuffix.trans ?_ (ih _)
      rcases @insert_cases α same fit room table key with ⟨heq, -⟩ | ⟨heq, -⟩
      · exact ⟨[], heq.symm⟩
      · exact ⟨[key], heq.symm⟩

/-- What is in a table was there or came. -/
theorem mem_intern {entry : α} (h : entry ∈ intern same fit room table keys) : entry ∈ table ∨ entry ∈ keys := by
  induction keys generalizing table with
  | nil => exact .inl h
  | cons key rest ih =>
      rcases ih h with hin | hin
      · rcases @insert_cases α same fit room table key with ⟨heq, -⟩ | ⟨heq, -⟩
        · rw [heq] at hin
          exact .inl hin
        · rw [heq] at hin
          rcases List.mem_cons.mp hin with rfl | hin
          · exact .inr List.mem_cons_self
          · exact .inl hin
      · exact .inr (List.mem_cons_of_mem key hin)

/-- **Every fit key is in the table, or the table is full.** -/
theorem intern_covers (hrefl : ∀ key, fit key = true → same key key = true) {key : α} (hkey : key ∈ keys)
    (hfit : fit key = true) : (∃ entry ∈ intern same fit room table keys, same entry key = true) ∨
      room ≤ (intern same fit room table keys).length := by
  induction keys generalizing table with
  | nil => cases hkey
  | cons head rest ih =>
      rcases List.mem_cons.mp hkey with rfl | hkey
      · have hkeep := @suffix_intern α same fit room (Interning.insert same fit room table key) rest
        have hafter : intern same fit room table (key :: rest) =
            intern same fit room (Interning.insert same fit room table key) rest := rfl
        rw [hafter]
        rcases @insert_cases α same fit room table key with ⟨heq, hno | ⟨entry, hmem, hsame⟩ | hfull⟩ | ⟨heq, -⟩
        · rw [hfit] at hno
          cases hno
        · exact .inl ⟨entry, hkeep.mem (by rw [heq]; exact hmem), hsame⟩
        · exact .inr (Nat.le_trans (by rw [heq]; exact hfull) hkeep.length_le)
        · exact .inl ⟨key, hkeep.mem (by rw [heq]; exact List.mem_cons_self), hrefl key hfit⟩
      · exact ih hkey

/-- Keys that differ are no more than the entries that cover them. -/
theorem Different.length_le (hsymm : ∀ a b, same a b = true → same b a = true)
    (htrans : ∀ a b c, same a b = true → same b c = true → same a c = true) {entries : List α}
    (h : Different same keys) (hcover : ∀ key ∈ keys, ∃ entry ∈ entries, same entry key = true) :
    keys.length ≤ entries.length := by
  induction keys generalizing entries with
  | nil => exact Nat.zero_le _
  | cons key rest ih =>
      obtain ⟨hkey, hrest⟩ := List.pairwise_cons.mp h
      obtain ⟨entry, hentry, hsame⟩ := hcover key List.mem_cons_self
      obtain ⟨before, behind, rfl⟩ := List.append_of_mem hentry
      have hothers : ∀ other ∈ rest, ∃ e ∈ before ++ behind, same e other = true := by
        intro other hother
        obtain ⟨e, he, hsame'⟩ := hcover other (List.mem_cons_of_mem key hother)
        have hne : e ≠ entry := by
          rintro rfl
          have hboth := htrans other e key (hsymm e other hsame') hsame
          rw [hkey other hother] at hboth
          cases hboth
        refine ⟨e, ?_, hsame'⟩
        simp only [List.mem_append, List.mem_cons] at he ⊢
        tauto
      have hle := ih hrest hothers
      rw [List.length_append] at hle
      rw [List.length_append, List.length_cons, List.length_cons]
      omega

/-- **All fit keys get in exactly when no more of them differ than there is room for.** -/
theorem covers_iff (hrefl : ∀ key, fit key = true → same key key = true)
    (hsymm : ∀ a b, same a b = true → same b a = true)
    (htrans : ∀ a b c, same a b = true → same b c = true → same a c = true) (keys : List α) :
    (∀ key ∈ keys, fit key = true → ∃ entry ∈ intern same fit room [] keys, same entry key = true) ↔
      ∀ chosen : List α, (∀ key ∈ chosen, key ∈ keys ∧ fit key = true) → Different same chosen → chosen.length ≤ room := by
  have htable : Table same fit room (intern same fit room [] keys) := Table.nil.intern keys
  constructor
  · intro hall chosen hchosen hdifferent
    refine Nat.le_trans (hdifferent.length_le hsymm htrans ?_) htable.length_le
    intro key hkey
    exact hall key (hchosen key hkey).1 (hchosen key hkey).2
  · intro hfew key hkey hfit
    rcases @intern_covers α same fit room [] keys hrefl key hkey hfit with hcovered | hfull
    · exact hcovered
    · -- the key and a full table would be too many
      by_contra hmissing
      have hlength := hfew (key :: intern same fit room [] keys) ?_ ?_
      · rw [List.length_cons] at hlength
        omega
      · intro other hother
        rcases List.mem_cons.mp hother with rfl | hother
        · exact ⟨hkey, hfit⟩
        · rcases mem_intern hother with hnil | hin
          · cases hnil
          · exact ⟨hin, htable.fit other hother⟩
      · refine List.pairwise_cons.mpr ⟨?_, htable.different⟩
        intro entry hentry
        by_contra hsame
        exact hmissing ⟨entry, hentry, by simpa using hsame⟩

/-! ## Numbers -/

/-- The entries of a table with their numbers, the oldest 0. -/
def numbered (number : Nat → α → β) : List α → List β
  | [] => []
  | entry :: rest => number rest.length entry :: numbered number rest

@[simp] theorem length_numbered (number : Nat → α → β) (table : List α) :
    (numbered number table).length = table.length := by
  induction table with
  | nil => rfl
  | cons entry rest ih => rw [numbered, List.length_cons, List.length_cons, ih]

/-- Numbers keep the entries. -/
theorem map_numbered {number : Nat → α → β} {entryOf : β → α} (h : ∀ k entry, entryOf (number k entry) = entry)
    (table : List α) : (numbered number table).map entryOf = table := by
  induction table with
  | nil => rfl
  | cons entry rest ih => rw [numbered, List.map_cons, h, ih]

theorem mem_numbered {number : Nat → α → β} {b : β} (h : b ∈ numbered number table) :
    ∃ k < table.length, ∃ entry ∈ table, b = number k entry := by
  induction table with
  | nil => cases h
  | cons entry rest ih =>
      rcases List.mem_cons.mp h with rfl | h
      · exact ⟨rest.length, Nat.lt_succ_self _, entry, List.mem_cons_self, rfl⟩
      · obtain ⟨k, hk, other, hother, heq⟩ := ih h
        exact ⟨k, Nat.lt_succ_of_lt hk, other, List.mem_cons_of_mem entry hother, heq⟩

theorem exists_numbered (number : Nat → α → β) {entry : α} (h : entry ∈ table) :
    ∃ k, number k entry ∈ numbered number table := by
  induction table with
  | nil => cases h
  | cons head rest ih =>
      rcases List.mem_cons.mp h with rfl | h
      · exact ⟨rest.length, List.mem_cons_self⟩
      · obtain ⟨k, hk⟩ := ih h
        exact ⟨k, List.mem_cons_of_mem _ hk⟩

/-- Two numbered entries have different numbers and are different entries. -/
theorem pairwise_numbered {number : Nat → α → β} {R : β → β → Prop} (h : Different same table)
    (hR : ∀ j k a b, j < k → k < table.length → same a b = false → R (number k b) (number j a)) :
    (numbered number table).Pairwise R := by
  induction table with
  | nil => exact .nil
  | cons entry rest ih =>
      obtain ⟨hentry, hrest⟩ := List.pairwise_cons.mp h
      refine List.pairwise_cons.mpr ⟨?_, ih hrest ?_⟩
      · intro b hb
        obtain ⟨j, hj, other, hother, rfl⟩ := mem_numbered hb
        exact hR j rest.length other entry hj (Nat.lt_succ_self _) (hentry other hother)
      · intro j k a b hjk hk
        exact hR j k a b hjk (Nat.lt_succ_of_lt hk)

end Interning
