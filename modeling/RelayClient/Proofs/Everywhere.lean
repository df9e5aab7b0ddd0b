import RelayClient.Value

/-!
# Tests that hold throughout a value

Which values can be written, and which of them can be read back, depends on what occurs in them at
any depth. Such a condition is a test of a single value, asked of every value inside another one.
-/
namespace RelayClient.Value

mutual

/-- Whether a test holds of a value and of everything in it, the keys of objects included. -/
def everywhere (p : Value → Bool) : Value → Bool
  | array items => p (array items) && everywhereIn p items
  | tuple items => p (tuple items) && everywhereIn p items
  | object entries => p (object entries) && everywhereUnder p entries
  | null => p null
  | bool b => p (bool b)
  | int n => p (int n)
  | float x => p (float x)
  | text t => p (text t)
  | bytes b => p (bytes b)

def everywhereIn (p : Value → Bool) : List Value → Bool
  | [] => true
  | v :: r => everywhere p v && everywhereIn p r

def everywhereUnder (p : Value → Bool) : List (Value × Value) → Bool
  | [] => true
  | (k, v) :: r => everywhere p k && everywhere p v && everywhereUnder p r

end

variable {p q : Value → Bool}

theorem holds_of_everywhere {v : Value} (h : v.everywhere p) : p v := by
  cases v <;> simp_all [everywhere]

mutual

theorem everywhere_of_forall (h : ∀ w, p w) : ∀ v : Value, v.everywhere p
  | array items => by rw [everywhere, h, everywhereIn_of_forall h items]; rfl
  | tuple items => by rw [everywhere, h, everywhereIn_of_forall h items]; rfl
  | object entries => by rw [everywhere, h, everywhereUnder_of_forall h entries]; rfl
  | null | bool _ | int _ | float _ | text _ | bytes _ => h _

theorem everywhereIn_of_forall (h : ∀ w, p w) : ∀ items : List Value, everywhereIn p items
  | [] => rfl
  | v :: r => by rw [everywhereIn, everywhere_of_forall h v, everywhereIn_of_forall h r]; rfl

theorem everywhereUnder_of_forall (h : ∀ w, p w) :
    ∀ entries : List (Value × Value), everywhereUnder p entries
  | [] => rfl
  | (k, v) :: r => by
    rw [everywhereUnder, everywhere_of_forall h k, everywhere_of_forall h v,
      everywhereUnder_of_forall h r]
    rfl

end

mutual

theorem everywhere_and : ∀ v : Value,
    v.everywhere (fun w => p w && q w) = (v.everywhere p && v.everywhere q)
  | array items => by simp only [everywhere, everywhereIn_and items]; ac_rfl
  | tuple items => by simp only [everywhere, everywhereIn_and items]; ac_rfl
  | object entries => by simp only [everywhere, everywhereUnder_and entries]; ac_rfl
  | null | bool _ | int _ | float _ | text _ | bytes _ => rfl

theorem everywhereIn_and : ∀ items : List Value,
    everywhereIn (fun w => p w && q w) items = (everywhereIn p items && everywhereIn q items)
  | [] => rfl
  | v :: r => by simp only [everywhereIn, everywhere_and v, everywhereIn_and r]; ac_rfl

theorem everywhereUnder_and : ∀ entries : List (Value × Value),
    everywhereUnder (fun w => p w && q w) entries =
      (everywhereUnder p entries && everywhereUnder q entries)
  | [] => rfl
  | (k, v) :: r => by
    simp only [everywhereUnder, everywhere_and k, everywhere_and v, everywhereUnder_and r]
    ac_rfl

end

theorem everywhereUnder_of_forall_mem {entries : List (Value × Value)}
    (h : ∀ e ∈ entries, e.1.everywhere p ∧ e.2.everywhere p) : everywhereUnder p entries := by
  induction entries with
  | nil => rfl
  | cons e entries ih =>
    obtain ⟨k, v⟩ := e
    obtain ⟨hk, hv⟩ := h _ (List.mem_cons_self ..)
    rw [everywhereUnder, hk, hv, ih fun e he => h e (List.mem_cons_of_mem _ he)]
    rfl

theorem everywhere_of_mem {items : List Value} (h : everywhereIn p items) {v : Value}
    (hv : v ∈ items) : v.everywhere p := by
  induction items with
  | nil => cases hv
  | cons w items ih =>
    rw [everywhereIn, Bool.and_eq_true] at h
    obtain rfl | hv := List.mem_cons.mp hv
    · exact h.1
    · exact ih h.2 hv

theorem everywhere_of_value? {entries : Entries} (h : everywhereUnder p entries) {key : String}
    {v : Value} (hv : Entries.value? key entries = some v) : v.everywhere p := by
  induction entries with
  | nil => cases hv
  | cons e entries ih =>
    obtain ⟨k, w⟩ := e
    rw [everywhereUnder, Bool.and_eq_true, Bool.and_eq_true] at h
    unfold Entries.value? at hv
    split at hv
    · cases hv
    · rename_i heq
      cases heq
      split at hv
      · obtain rfl := Option.some.inj hv
        exact h.1.2
      · exact ih h.2 hv
    · rename_i heq
      cases heq
      exact ih h.2 hv

/-- A test holds throughout a record if it holds of the record, its names and its fields. -/
theorem everywhere_record {fields : List (String × Value)} (hr : p (record fields))
    (hn : ∀ f ∈ fields, p (text (Text.ofString f.1))) (hf : ∀ f ∈ fields, f.2.everywhere p) :
    (record fields).everywhere p := by
  have hfields : everywhereUnder p (fields.map fun f => (text (Text.ofString f.1), f.2)) := by
    refine everywhereUnder_of_forall_mem fun e he => ?_
    obtain ⟨f, hmem, rfl⟩ := List.mem_map.mp he
    exact ⟨hn f hmem, hf f hmem⟩
  rw [record, everywhere, ← record, hr, hfields]
  rfl

end RelayClient.Value
