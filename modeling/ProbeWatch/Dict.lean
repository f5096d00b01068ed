/-!
# Dictionaries

A dictionary is a list of pairs in strictly increasing order of their keys.  The view is `get?`,
and each operation is described by what it does to that view.
-/

namespace ProbeWatch

/-- A list of keyed values, kept in increasing order of the keys. -/
abbrev Dict (α : Type) := List (String × α)

namespace Dict

variable {α β : Type}

/-- The value under a key. -/
def get? (key : String) : Dict α → Option α
  | [] => none
  | (name, value) :: rest => if name = key then some value else get? key rest

/-- The dictionary in which `key` holds `value`. -/
def insert (key : String) (value : α) : Dict α → Dict α
  | [] => [(key, value)]
  | (name, held) :: rest =>
      if name = key then
        (key, value) :: rest
      else if key < name then
        (key, value) :: (name, held) :: rest
      else
        (name, held) :: insert key value rest

/-- The dictionary in which `key` holds nothing. -/
def erase (key : String) (dict : Dict α) : Dict α :=
  dict.filter (fun pair => pair.1 != key)

/-- Whether the key holds a value. -/
def contains (key : String) (dict : Dict α) : Bool :=
  (dict.get? key).isSome

/-- The keys in increasing order. -/
def keys (dict : Dict α) : List String :=
  dict.map Prod.fst

/-- The dictionary of a list of pairs, in which a later pair replaces an earlier one. -/
def ofPairs (pairs : List (String × α)) : Dict α :=
  pairs.foldl (fun dict pair => insert pair.1 pair.2 dict) []

/-- All pairs of `upper` laid over `dict`. -/
def overlay (dict upper : Dict α) : Dict α :=
  upper.foldl (fun result pair => insert pair.1 pair.2 result) dict

@[simp]
theorem get?_nil (key : String) : get? key ([] : Dict α) = none := rfl

@[simp]
theorem get?_insert_self (key : String) (value : α) (dict : Dict α) :
    get? key (insert key value dict) = some value := by
  induction dict with
  | nil => simp [insert, get?]
  | cons pair rest ih =>
      obtain ⟨name, held⟩ := pair
      by_cases same : name = key
      · simp [insert, get?, same]
      · by_cases before : key < name
        · simp [insert, get?, same, before]
        · simp [insert, get?, same, before, ih]

theorem get?_insert_of_ne {key other : String} (different : other ≠ key) (value : α)
    (dict : Dict α) : get? other (insert key value dict) = get? other dict := by
  induction dict with
  | nil => simp [insert, get?, Ne.symm different]
  | cons pair rest ih =>
      obtain ⟨name, held⟩ := pair
      by_cases same : name = key
      · subst same
        simp [insert, get?, Ne.symm different]
      · by_cases before : key < name
        · simp [insert, get?, same, before, Ne.symm different]
        · by_cases found : name = other
          · subst found
            simp [insert, get?, different, before]
          · simp [insert, get?, same, before, found, ih]

@[simp]
theorem get?_erase_self (key : String) (dict : Dict α) : get? key (erase key dict) = none := by
  induction dict with
  | nil => rfl
  | cons pair rest ih =>
      obtain ⟨name, held⟩ := pair
      by_cases same : name = key
      · subst same
        simpa [erase] using ih
      · simpa [erase, get?, same] using ih

theorem get?_erase_of_ne {key other : String} (different : other ≠ key) (dict : Dict α) :
    get? other (erase key dict) = get? other dict := by
  induction dict with
  | nil => rfl
  | cons pair rest ih =>
      obtain ⟨name, held⟩ := pair
      by_cases same : name = key
      · subst same
        simpa [erase, get?, Ne.symm different] using ih
      · by_cases found : name = other
        · subst found
          simp [erase, get?, different]
        · simpa [erase, get?, same, found] using ih

end Dict
end ProbeWatch
