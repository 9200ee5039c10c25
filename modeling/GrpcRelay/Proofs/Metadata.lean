/-
  Metadata — the values that are left of a map when keys are taken out of it,
  and what passes from one leg of a call to the other (`Metadata.Passes`): all
  values of every key but the dropped ones.
-/
import GrpcRelay.Metadata.Transport
import GrpcRelay.Proofs.Text

namespace GrpcRelay.Metadata

variable {m : Metadata} {key : String} {keys : List String}

/-! ## Keys -/

/-- All keys are in lower case. -/
def IsLower (m : Metadata) : Prop := ∀ e ∈ m.entries, Text.lowerString e.1 = e.1

instance (m : Metadata) : Decidable m.IsLower := inferInstanceAs (Decidable (∀ e ∈ m.entries, _))

theorem IsLower.append {value : MetadataValue} (h : m.IsLower) :
    (m.append (Text.lowerString key) value).IsLower := by
  intro e he
  rcases List.mem_append.1 he with he | he
  · exact h e he
  · rw [List.mem_singleton.1 he]
    exact Text.lowerString_lowerString key

/-! ## Taking keys out -/

theorem values_eraseAll (h : key ∉ keys) : (m.eraseAll keys).values key = m.values key := by
  unfold values eraseAll
  rw [List.filter_filter]
  congr 1
  refine List.filter_congr fun e _ => ?_
  by_cases he : e.1 = key
  · simp [he, h]
  · simp [he]

theorem values_eraseAll_of_mem (h : key ∈ keys) : (m.eraseAll keys).values key = [] := by
  unfold values eraseAll
  rw [List.filter_filter, List.map_eq_nil_iff, List.filter_eq_nil_iff]
  intro e _ he
  rw [Bool.and_eq_true, beq_iff_eq] at he
  obtain ⟨rfl, hk⟩ := he
  simp [h] at hk

theorem values_eq_nil (hm : m.IsLower) (h : Text.lowerString key ≠ key) : m.values key = [] := by
  rw [values, List.map_eq_nil_iff, List.filter_eq_nil_iff]
  intro e he hk
  rw [beq_iff_eq] at hk
  exact h (hk ▸ hm e he)

theorem eraseAll_eraseAll (m : Metadata) (keys : List String) :
    (m.eraseAll keys).eraseAll keys = m.eraseAll keys := by
  simp [eraseAll, List.filter_filter]

/-- A key appears exactly if it has a value. -/
theorem contains_iff : m.contains key = true ↔ m.values key ≠ [] := by
  simp [contains, values, List.any_eq_true]

theorem values_append {value : MetadataValue} :
    (m.append key value).values key = m.values key ++ [value] := by
  simp [values, append]

theorem values_append_ne {key' : String} {value : MetadataValue} (h : key' ≠ key) :
    (m.append key' value).values key = m.values key := by
  simp [values, append, h]

theorem erase_eq_eraseAll (m : Metadata) (key : String) : m.erase key = m.eraseAll [key] := by
  refine congrArg Metadata.mk (List.filter_congr fun e _ => ?_)
  by_cases h : e.1 = key <;> simp [h]

theorem values_insert {value : MetadataValue} : (m.insert key value).values key = [value] := by
  rw [insert, values_append, erase_eq_eraseAll, values_eraseAll_of_mem List.mem_cons_self]
  rfl

theorem values_insert_ne {key' : String} {value : MetadataValue} (h : key' ≠ key) :
    (m.insert key' value).values key = m.values key := by
  rw [insert, values_append_ne h, erase_eq_eraseAll, values_eraseAll (by simpa using h.symm)]

theorem firstText?_of_values {t : String} (h : m.values key = [.text t]) :
    m.firstText? key = some t := by
  rw [firstText?, first?, h]
  rfl

theorem firstText?_of_empty (h : m.values key = []) : m.firstText? key = none := by
  rw [firstText?, first?, h]
  rfl

theorem override_empty (m : Metadata) : override {} m = m := rfl

theorem IsLower.eraseAll (h : m.IsLower) (keys : List String) : (m.eraseAll keys).IsLower :=
  fun e he => h e (List.mem_filter.1 he).1

/-- What is handed on of metadata that was sent: every value of every key, in order, but nothing
    of the dropped keys, in whatever case they are written. -/
structure Passes (dropped : List String) (sent handed : Metadata) : Prop where
  kept : ∀ key, Text.lowerString key ∉ dropped → handed.values key = sent.values key
  gone : sent.IsLower → ∀ key, Text.lowerString key ∈ dropped → handed.values key = []

theorem passes_eraseAll (h : ∀ k ∈ keys, Text.lowerString k = k) :
    Passes keys m (m.eraseAll keys) := by
  refine ⟨fun key hk => values_eraseAll fun hmem => hk ?_, fun hm key hk => ?_⟩
  · rw [h key hmem]; exact hmem
  · by_cases hlow : Text.lowerString key = key
    · rw [hlow] at hk
      exact values_eraseAll_of_mem hk
    · exact values_eq_nil (hm.eraseAll keys) hlow

theorem passes_strip (m : Metadata) : Passes transportKeys m m.strip :=
  passes_eraseAll (by decide)

end GrpcRelay.Metadata
