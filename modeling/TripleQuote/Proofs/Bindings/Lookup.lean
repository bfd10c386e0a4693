import TripleQuote.Bindings

/-! # Looking names up

What is bound to a name after names have been bound or bindings have been merged. The names of
bindings that are built are distinct, so that a merge gives the value of the bindings on the right
where they have one (`Bindings.get?_merge`). -/

namespace TripleQuote

namespace Ordered

variable {κ β : Type} [BEq κ] [LawfulBEq κ] {k n : κ} {v : β} {entries : List (κ × β)}

theorem insert_of_notMem (h : k ∉ entries.map (·.1)) :
    insert (· == ·) k v entries = entries ++ [(k, v)] := by
  induction entries with
  | nil => rfl
  | cons entry entries ih =>
    obtain ⟨hne, hmem⟩ := List.ne_and_not_mem_of_not_mem_cons h
    simp only [insert, beq_iff_eq, Ne.symm hne, if_false, ih hmem, List.cons_append]

theorem mem_of_get? (h : get? (· == ·) n entries = some v) : (n, v) ∈ entries := by
  induction entries with
  | nil => cases h
  | cons entry entries ih =>
    rw [get?] at h
    split at h
    · next hname =>
      cases h
      rw [← eq_of_beq hname]
      exact List.mem_cons_self
    · exact List.mem_cons_of_mem entry (ih h)

variable [DecidableEq κ]

theorem get?_eq_none_iff : get? (· == ·) n entries = none ↔ n ∉ entries.map (·.1) := by
  induction entries with
  | nil => simp [get?]
  | cons entry entries ih =>
    simp only [get?, List.map_cons, List.mem_cons, not_or, ← ih]
    by_cases h : entry.1 = n
    · simp [h]
    · simp [h, Ne.symm h]

theorem isSome_get? : (get? (· == ·) n entries).isSome = true ↔ n ∈ entries.map (·.1) := by
  rw [← Option.ne_none_iff_isSome, Ne, get?_eq_none_iff, Decidable.not_not]

theorem get?_insert :
    get? (· == ·) n (insert (· == ·) k v entries) =
      if k = n then some v else get? (· == ·) n entries := by
  induction entries with
  | nil => simp [insert, get?]
  | cons entry entries ih =>
    obtain ⟨k', v'⟩ := entry
    by_cases hk : k' = k
    · subst hk
      simp only [insert, get?, BEq.rfl, if_true, beq_iff_eq]
      split <;> rfl
    · simp only [insert, beq_iff_eq, hk, if_false, get?, ih]
      by_cases hn : k' = n
      · simp [hn, show k ≠ n from fun h => hk (hn.trans h.symm)]
      · simp [hn]

theorem map_fst_insert :
    (insert (· == ·) k v entries).map (·.1) =
      if k ∈ entries.map (·.1) then entries.map (·.1) else entries.map (·.1) ++ [k] := by
  induction entries with
  | nil => simp [insert]
  | cons entry entries ih =>
    by_cases hk : entry.1 = k
    · simp [insert, hk]
    · simp only [insert, beq_iff_eq, hk, if_false, List.map_cons, ih, List.mem_cons,
        Ne.symm hk, false_or]
      split <;> rfl

end Ordered

namespace Bindings

variable {b c : Bindings} {k n : Text} {v : Value} {entries : List (Text × Value)}

/-- Whether each name is bound once. -/
def Distinct (b : Bindings) : Prop := b.names.Nodup

theorem contains_iff : b.contains n = true ↔ n ∈ b.names :=
  Ordered.isSome_get?

theorem get?_insert : (b.insert k v).get? n = if k = n then some v else b.get? n :=
  Ordered.get?_insert

theorem names_insert :
    (b.insert k v).names = if k ∈ b.names then b.names else b.names ++ [k] :=
  Ordered.map_fst_insert

theorem mem_names_insert : n ∈ (b.insert k v).names ↔ n = k ∨ n ∈ b.names := by
  rw [names_insert]
  split
  · next hk =>
    constructor
    · exact .inr
    · rintro (rfl | hn)
      · exact hk
      · exact hn
  · simp [or_comm]

theorem insertAll_cons (entry : Text × Value) :
    b.insertAll (entry :: entries) = (b.insert entry.1 entry.2).insertAll entries := rfl

theorem mem_names_insertAll :
    n ∈ (b.insertAll entries).names ↔ n ∈ entries.map (·.1) ∨ n ∈ b.names := by
  induction entries generalizing b with
  | nil => simp [insertAll]
  | cons entry entries ih =>
    rw [insertAll_cons, ih, mem_names_insert, List.map_cons, List.mem_cons, or_left_comm, or_assoc]

theorem mem_names_merge : n ∈ (b.merge c).names ↔ n ∈ c.names ∨ n ∈ b.names :=
  mem_names_insertAll

/-- A list in which a name comes once binds it to its value there. -/
theorem get?_insertAll (h : (entries.map (·.1)).Nodup) :
    (b.insertAll entries).get? n = (Ordered.get? (· == ·) n entries).or (b.get? n) := by
  induction entries generalizing b with
  | nil => rfl
  | cons entry entries ih =>
    obtain ⟨hentry, hentries⟩ := List.nodup_cons.mp h
    rw [insertAll_cons, ih hentries, get?_insert, Ordered.get?]
    by_cases hn : entry.1 = n
    · subst hn
      simp [Ordered.get?_eq_none_iff.mpr hentry]
    · simp [hn]

/-- A merge gives the values of the bindings on the right first. -/
theorem get?_merge (hc : c.Distinct) : (b.merge c).get? n = (c.get? n).or (b.get? n) :=
  get?_insertAll hc

theorem distinct_empty : empty.Distinct := List.nodup_nil

theorem Distinct.insert (h : b.Distinct) : (b.insert k v).Distinct := by
  rw [Distinct, names_insert]
  split
  · exact h
  · next hk =>
    refine List.nodup_append.mpr ⟨h, List.pairwise_singleton _ k, fun a ha c hc hac => hk ?_⟩
    rwa [← List.mem_singleton.mp hc, ← hac]

theorem Distinct.insertAll (h : b.Distinct) : (b.insertAll entries).Distinct := by
  induction entries generalizing b with
  | nil => exact h
  | cons entry entries ih => exact ih h.insert

theorem Distinct.merge (h : b.Distinct) : (b.merge c).Distinct := h.insertAll

theorem distinct_ofList : (ofList entries).Distinct := distinct_empty.insertAll

/-- New names come behind the names that are bound. -/
theorem entries_insertAll (h : (b.entries ++ entries).map (·.1) |>.Nodup) :
    (b.insertAll entries).entries = b.entries ++ entries := by
  induction entries generalizing b with
  | nil => exact (List.append_nil _).symm
  | cons entry entries ih =>
    have hsplit : b.entries ++ entry :: entries = (b.entries ++ [entry]) ++ entries := by simp
    have hentry : (b.insert entry.1 entry.2).entries = b.entries ++ [entry] := by
      refine Ordered.insert_of_notMem fun hmem => ?_
      rw [List.map_append] at h
      exact (List.nodup_append.mp h).2.2 _ hmem _ List.mem_cons_self rfl
    rw [insertAll_cons, ih (by rwa [hentry, ← hsplit]), hentry, ← hsplit]

/-- Bindings with distinct names are those of their entries. -/
theorem ofList_entries (h : b.Distinct) : ofList b.entries = b := by
  have hentries : (ofList b.entries).entries = b.entries := entries_insertAll h
  exact congrArg Bindings.mk hentries

/-- What is bound to a name after a list of entries is a value of the list or was bound before. -/
theorem get?_insertAll_eq_some (h : (b.insertAll entries).get? n = some v) :
    (n, v) ∈ entries ∨ b.get? n = some v := by
  induction entries generalizing b with
  | nil => exact .inr h
  | cons entry entries ih =>
    rw [insertAll_cons] at h
    rcases ih h with hmem | hget
    · exact .inl (List.mem_cons_of_mem entry hmem)
    · rw [get?_insert] at hget
      split at hget
      · next hname =>
        cases hget
        exact .inl (hname ▸ List.mem_cons_self)
      · exact .inr hget

/-! ## Entries under other names -/

/-- Two lists of entries bind those among `names` in the same way. -/
def SameOn (names : List Text) (entries entries' : List (Text × Value)) : Prop :=
  entries.filter (names.contains ·.1) = entries'.filter (names.contains ·.1)

variable {names : List Text} {entries' : List (Text × Value)}

theorem get?_insertAll_filter (hn : n ∈ names) (hb : b.get? n = c.get? n) :
    (b.insertAll (entries.filter (names.contains ·.1))).get? n = (c.insertAll entries).get? n := by
  induction entries generalizing b c with
  | nil => exact hb
  | cons entry entries ih =>
    rw [insertAll_cons]
    by_cases hk : names.contains entry.1 = true
    · rw [List.filter_cons_of_pos (by exact hk), insertAll_cons]
      exact ih (by rw [get?_insert, get?_insert, hb])
    · rw [List.filter_cons_of_neg (by exact hk)]
      have hne : entry.1 ≠ n := fun h => hk (List.contains_iff_mem.mpr (h ▸ hn))
      exact ih (by rw [get?_insert, if_neg hne, hb])

theorem get?_insertAll_congr (h : SameOn names entries entries') (hn : n ∈ names)
    (hb : b.get? n = c.get? n) : (b.insertAll entries).get? n = (c.insertAll entries').get? n := by
  rw [← get?_insertAll_filter hn rfl, h, get?_insertAll_filter hn hb]

theorem get?_filter (hn : n ∈ names) :
    Ordered.get? (· == ·) n (entries.filter (names.contains ·.1)) =
      Ordered.get? (· == ·) n entries := by
  induction entries with
  | nil => rfl
  | cons entry entries ih =>
    by_cases hk : names.contains entry.1 = true
    · rw [List.filter_cons_of_pos (by exact hk), Ordered.get?, Ordered.get?, ih]
    · have hne : entry.1 ≠ n := fun h => hk (List.contains_iff_mem.mpr (h ▸ hn))
      rw [List.filter_cons_of_neg (by exact hk), ih, Ordered.get?, if_neg (by simpa using hne)]

theorem get?_congr (h : SameOn names b.entries c.entries) (hn : n ∈ names) :
    b.get? n = c.get? n := by
  rw [get?, ← get?_filter hn, h, get?_filter hn, ← get?]

/-! ## Maps with names as keys -/

variable {values : List (Value × Value)} {named : List (Text × Value)}

/-- Names with their values as the entries of a map. -/
def keyed (named : List (Text × Value)) : List (Value × Value) :=
  named.map fun entry => (.text entry.1, entry.2)

theorem textEntries?_keyed (named : List (Text × Value)) :
    textEntries? (keyed named) = .ok named := by
  induction named with
  | nil => rfl
  | cons entry named ih =>
    rw [keyed, List.map_cons, ← keyed, textEntries?, ih]
    rfl

/-- The entries of a map whose keys are texts. -/
theorem exists_keyed (h : ∀ entry ∈ values, ∃ name, entry.1 = .text name) :
    ∃ named, values = keyed named := by
  induction values with
  | nil => exact ⟨[], rfl⟩
  | cons entry values ih =>
    obtain ⟨⟨name, hname⟩, hvalues⟩ := List.forall_mem_cons.mp h
    obtain ⟨named, rfl⟩ := ih hvalues
    exact ⟨(name, entry.2) :: named, by rw [keyed, keyed, List.map_cons, ← hname]⟩

/-- Keys are read as names up to the first that is none. -/
theorem textEntries?_eq_error_iff {key : Value} :
    textEntries? values = .error key ↔
      ∃ named v rest, values = keyed named ++ (key, v) :: rest ∧ ∀ name, key ≠ .text name := by
  constructor
  · intro h
    induction values with
    | nil => cases h
    | cons entry values ih =>
      unfold textEntries? at h
      split at h
      · cases h
      · next name v rest hvalues =>
        cases hvalues
        cases hrest : textEntries? values with
        | ok named => simp [hrest, Except.map] at h
        | error key' =>
          obtain rfl : key' = key := by simpa [hrest, Except.map] using h
          obtain ⟨named, v', rest, hsplit, hkey⟩ := ih hrest
          exact ⟨(name, v) :: named, v', rest, by rw [hsplit]; rfl, hkey⟩
      · next key' v rest hname hvalues =>
        cases hvalues
        cases h
        exact ⟨[], v, values, rfl, hname⟩
  · rintro ⟨named, v, rest, rfl, hkey⟩
    induction named with
    | nil =>
      cases key with
      | text name => exact absurd rfl (hkey name)
      | _ => rfl
    | cons entry named ih =>
      have ih : textEntries? (keyed named ++ (key, v) :: rest) = .error key := ih
      have hsplit : keyed (entry :: named) ++ (key, v) :: rest =
          (.text entry.1, entry.2) :: (keyed named ++ (key, v) :: rest) := rfl
      rw [hsplit, textEntries?, ih]
      rfl

theorem build_keyed (values named : List (Text × Value)) :
    build (keyed values) named = .ok ((ofList values).insertAll named) := by
  rw [build, textEntries?_keyed]

theorem mergeMap_keyed (b : Bindings) (named : List (Text × Value)) :
    b.mergeMap (keyed named) = .ok (b.insertAll named) := by
  rw [mergeMap, textEntries?_keyed]

theorem entry?_keyed (named : List (Text × Value)) (n : Text) :
    Value.entry? n (keyed named) = Ordered.get? (· == ·) n named := by
  induction named with
  | nil => rfl
  | cons entry named ih =>
    rw [Value.entry?] at ih
    rw [Value.entry?, keyed, List.map_cons, ← keyed, Ordered.get?, ih]
    rfl

end Bindings

end TripleQuote
