import ProbeWatch.Dict

/-!
# Dictionaries in order

Every dictionary that is built by insertions has its keys in increasing order.  A dictionary that
is laid over another one answers for every key that it holds.
-/

namespace ProbeWatch.Dict

variable {α : Type}

/-! ## The order of the keys -/

/-- Whether the keys are in strictly increasing order. -/
def Ordered (dict : Dict α) : Prop := dict.keys.Pairwise (· < ·)

@[simp]
theorem keys_cons (pair : String × α) (dict : Dict α) :
    keys (pair :: dict) = pair.1 :: keys dict := rfl

theorem mem_keys_insert {name key : String} {value : α} {dict : Dict α} :
    name ∈ keys (insert key value dict) ↔ name = key ∨ name ∈ keys dict := by
  induction dict with
  | nil => simp [insert, keys]
  | cons pair rest ih =>
      obtain ⟨first, held⟩ := pair
      rw [insert]
      split
      · rename_i same
        simp [same]
      split
      · simp
      · rw [keys_cons, List.mem_cons, ih, keys_cons, List.mem_cons]
        constructor <;> (rintro (rfl | rfl | held) <;> simp_all)

theorem Ordered.insert {dict : Dict α} (ordered : Ordered dict) (key : String) (value : α) :
    Ordered (Dict.insert key value dict) := by
  induction dict with
  | nil => exact List.pairwise_singleton _ _
  | cons pair rest ih =>
      obtain ⟨first, held⟩ := pair
      have above := List.pairwise_cons.mp ordered
      rw [Dict.insert]
      split
      · rename_i same
        exact same ▸ ordered
      split
      · rename_i before
        refine List.pairwise_cons.mpr ⟨fun name found => ?_, ordered⟩
        rcases List.mem_cons.mp found with rfl | later
        · exact before
        · exact String.lt_trans before (above.1 name later)
      · rename_i different after
        refine List.pairwise_cons.mpr ⟨fun name found => ?_, ih above.2⟩
        rcases mem_keys_insert.mp found with rfl | later
        · exact Std.lt_of_le_of_ne (String.not_lt.mp after) different
        · exact above.1 name later

theorem Ordered.overlay {dict : Dict α} (ordered : Ordered dict) (upper : Dict α) :
    Ordered (Dict.overlay dict upper) := by
  induction upper generalizing dict with
  | nil => exact ordered
  | cons pair rest ih => exact ih (ordered.insert pair.1 pair.2)

theorem ordered_nil : Ordered ([] : Dict α) := List.Pairwise.nil

theorem ordered_ofPairs (pairs : List (String × α)) : Ordered (ofPairs pairs) :=
  ordered_nil.overlay pairs

theorem Ordered.distinct {dict : Dict α} (ordered : Ordered dict) : dict.keys.Nodup := by
  refine List.Pairwise.imp ?_ ordered
  intro first second before same
  subst same
  exact String.lt_irrefl first before

theorem Ordered.erase {dict : Dict α} (ordered : Ordered dict) (key : String) :
    Ordered (Dict.erase key dict) :=
  List.Pairwise.sublist (List.filter_sublist.map Prod.fst) ordered

theorem insert_of_above {key : String} {dict : Dict α} (above : ∀ name ∈ keys dict, name < key)
    (value : α) : insert key value dict = dict ++ [(key, value)] := by
  induction dict with
  | nil => rfl
  | cons pair rest ih =>
      obtain ⟨name, held⟩ := pair
      have before := above name List.mem_cons_self
      have different : name ≠ key := fun same => String.lt_irrefl key (same ▸ before)
      have after : ¬ key < name := fun later => String.lt_irrefl _ (String.lt_trans later before)
      rw [insert, if_neg different, if_neg after, List.cons_append,
        ih fun name found => above name (List.mem_cons_of_mem _ found)]

theorem Ordered.ofPairs_self {dict : Dict α} (ordered : Ordered dict) : ofPairs dict = dict := by
  suffices laid : ∀ front rest : Dict α, Ordered (front ++ rest) →
      Dict.overlay front rest = front ++ rest from laid [] dict ordered
  intro front rest
  induction rest generalizing front with
  | nil => exact fun _ => (List.append_nil front).symm
  | cons pair rest ih =>
      intro ordered
      have split : front ++ pair :: rest = front ++ [pair] ++ rest := by simp
      have above : ∀ name ∈ keys front, name < pair.1 := by
        rw [Ordered, keys, List.map_append, List.pairwise_append] at ordered
        exact fun name found => ordered.2.2 name found pair.1 List.mem_cons_self
      have step := ih (front ++ [pair]) (split ▸ ordered)
      rw [← insert_of_above above pair.2] at step
      rw [split, ← insert_of_above above pair.2]
      exact step

theorem mem_of_mem_insert {key : String} {value : α} {dict : Dict α} {pair : String × α}
    (found : pair ∈ insert key value dict) : pair = (key, value) ∨ pair ∈ dict := by
  induction dict with
  | nil => exact .inl (List.mem_singleton.mp found)
  | cons first rest ih =>
      obtain ⟨name, held⟩ := first
      rw [insert] at found
      split at found
      · exact (List.mem_cons.mp found).imp id (List.mem_cons_of_mem _)
      split at found
      · exact List.mem_cons.mp found
      · rcases List.mem_cons.mp found with rfl | later
        · exact .inr List.mem_cons_self
        · exact (ih later).imp id (List.mem_cons_of_mem _)

theorem mem_of_mem_ofPairs {pairs : List (String × α)} {pair : String × α}
    (found : pair ∈ ofPairs pairs) : pair ∈ pairs := by
  suffices laid : ∀ dict : Dict α, pair ∈ overlay dict pairs → pair ∈ dict ∨ pair ∈ pairs from
    (laid [] found).resolve_left List.not_mem_nil
  clear found
  induction pairs with
  | nil => exact fun _ => .inl
  | cons first rest ih =>
      intro dict found
      rcases ih _ found with inserted | later
      · rcases mem_of_mem_insert inserted with rfl | held
        · exact .inr List.mem_cons_self
        · exact .inl held
      · exact .inr (List.mem_cons_of_mem _ later)

/-! ## The view of a whole dictionary -/

theorem get?_eq_none_of_notMem {key : String} {dict : Dict α} (absent : key ∉ dict.keys) :
    get? key dict = none := by
  induction dict with
  | nil => rfl
  | cons pair rest ih =>
      rw [keys_cons, List.mem_cons, not_or] at absent
      rw [get?, if_neg (Ne.symm absent.1), ih absent.2]

theorem get?_of_mem {key : String} {value : α} {dict : Dict α} (distinct : dict.keys.Nodup)
    (held : (key, value) ∈ dict) : get? key dict = some value := by
  induction dict with
  | nil => cases held
  | cons pair rest ih =>
      rw [keys_cons, List.nodup_cons] at distinct
      rw [get?]
      rcases List.mem_cons.mp held with rfl | later
      · rw [if_pos rfl]
      · have different : pair.1 ≠ key := by
          rintro rfl
          exact distinct.1 (List.mem_map.mpr ⟨_, later, rfl⟩)
        rw [if_neg different]
        exact ih distinct.2 later

theorem mem_of_get? {key : String} {value : α} {dict : Dict α}
    (found : get? key dict = some value) : (key, value) ∈ dict := by
  induction dict with
  | nil => cases found
  | cons pair rest ih =>
      rw [get?] at found
      split at found
      · rename_i same
        rw [← same, ← Option.some.inj found]
        exact List.mem_cons_self
      · exact List.mem_cons_of_mem _ (ih found)

theorem Ordered.ext {dict other : Dict α} (ordered : Ordered dict) (ordered' : Ordered other)
    (same : ∀ key, get? key dict = get? key other) : dict = other := by
  have before : dict.Pairwise (fun left right => left.1 < right.1) := List.pairwise_map.mp ordered
  have before' : other.Pairwise (fun left right => left.1 < right.1) := List.pairwise_map.mp ordered'
  have differ : ∀ left right : String × α, left.1 < right.1 → left ≠ right := by
    rintro left right lower rfl
    exact String.lt_irrefl _ lower
  have pairs : dict.Perm other := by
    rw [List.perm_ext_iff_of_nodup (before.imp (differ _ _)) (before'.imp (differ _ _))]
    rintro ⟨key, value⟩
    constructor
    · exact fun held => mem_of_get? ((same key).symm.trans (get?_of_mem ordered.distinct held))
    · exact fun held => mem_of_get? ((same key).trans (get?_of_mem ordered'.distinct held))
  refine pairs.eq_of_pairwise (fun left right _ _ lower higher => ?_) before before'
  exact absurd (String.lt_trans lower higher) (String.lt_irrefl _)

theorem get?_overlay {upper : Dict α} (distinct : upper.keys.Nodup) (dict : Dict α) (key : String) :
    get? key (overlay dict upper) = (get? key upper).or (get? key dict) := by
  induction upper generalizing dict with
  | nil => rfl
  | cons pair rest ih =>
      obtain ⟨name, value⟩ := pair
      rw [keys_cons, List.nodup_cons] at distinct
      have step := ih distinct.2 (insert name value dict)
      rw [get?]
      split
      · rename_i same
        subst same
        rw [get?_eq_none_of_notMem distinct.1, get?_insert_self] at step
        exact step
      · rename_i different
        rw [get?_insert_of_ne (Ne.symm different)] at step
        exact step

theorem get?_ofPairs {pairs : List (String × α)} (distinct : (keys pairs).Nodup) (key : String) :
    get? key (ofPairs pairs) = get? key pairs := by
  have laid := get?_overlay distinct [] key
  rw [get?_nil, Option.or_none] at laid
  exact laid

theorem keys_map {β : Type} (change : String × α → β) (dict : Dict α) :
    keys (dict.map fun pair => (pair.1, change pair)) = keys dict := by
  rw [keys, List.map_map]
  rfl

theorem get?_map {β : Type} (change : String × α → β) (dict : Dict α) (key : String) :
    get? key (dict.map fun pair => (pair.1, change pair)) =
      (get? key dict).map fun value => change (key, value) := by
  induction dict with
  | nil => rfl
  | cons pair rest ih =>
      rw [List.map_cons, get?, get?]
      split
      · rename_i same
        rw [← same]
        rfl
      · exact ih

end ProbeWatch.Dict
