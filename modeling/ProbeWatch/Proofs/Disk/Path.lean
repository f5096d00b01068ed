import Mathlib.Data.List.TakeWhile
import ProbeWatch.Disk.Path

/-!
# The names of a path

Slashes and idle dots at the end of a path add no name to it, so a path has the names of what stands
in front of its last name, and its last name.  Another extension changes nothing but the last name.
-/

namespace ProbeWatch

/-! ## Splitting -/

namespace Text

theorem splitAll_ne_nil (separator : Char) (text : List Char) : splitAll separator text ≠ [] := by
  cases text with
  | nil => exact List.cons_ne_nil _ _
  | cons c rest =>
      rw [splitAll]
      split
      · exact List.cons_ne_nil _ _
      · split <;> exact List.cons_ne_nil _ _

theorem splitAll_append (separator : Char) (front rest : List Char) :
    splitAll separator (front ++ separator :: rest) =
      splitAll separator front ++ splitAll separator rest := by
  induction front with
  | nil => exact if_pos rfl
  | cons c front ih =>
      rw [List.cons_append, splitAll, splitAll]
      split
      · rw [ih, List.cons_append]
      · rw [ih]
        cases split : splitAll separator front with
        | nil => exact absurd split (splitAll_ne_nil separator front)
        | cons part parts => rfl

theorem notMem_of_mem_splitAll {separator : Char} {text part : List Char}
    (found : part ∈ splitAll separator text) : separator ∉ part := by
  induction text generalizing part with
  | nil =>
      rw [List.mem_singleton.mp found]
      exact List.not_mem_nil
  | cons c rest ih =>
      rw [splitAll] at found
      split at found
      · rcases List.mem_cons.mp found with rfl | later
        · exact List.not_mem_nil
        · exact ih later
      · rename_i other
        split at found
        · rw [List.mem_singleton.mp found, List.mem_singleton]
          exact Ne.symm other
        · rename_i first parts split
          rw [split] at ih
          rcases List.mem_cons.mp found with rfl | later
          · rw [List.mem_cons, not_or]
            exact ⟨Ne.symm other, ih List.mem_cons_self⟩
          · exact ih (List.mem_cons_of_mem first later)

theorem splitAll_of_notMem {separator : Char} {text : List Char} (absent : separator ∉ text) :
    splitAll separator text = [text] := by
  induction text with
  | nil => rfl
  | cons c text ih =>
      rw [List.mem_cons, not_or] at absent
      rw [splitAll, if_neg (Ne.symm absent.1), ih absent.2]

end Text

namespace Path

open Text (splitAll splitAll_append splitAll_of_notMem notMem_of_mem_splitAll)

/-- The parts of a path that lead anywhere. -/
def parts (path : List Char) : List (List Char) := (splitAll '/' path).filter isName

theorem names_eq (path : String) : names path = (parts path.toList).map String.ofList := rfl

theorem parts_append (front rest : List Char) :
    parts (front ++ '/' :: rest) = parts front ++ parts rest := by
  rw [parts, splitAll_append, List.filter_append, parts, parts]

theorem parts_of_notMem {part : List Char} (single : '/' ∉ part) :
    parts part = if isName part then [part] else [] := by
  rw [parts, splitAll_of_notMem single, List.filter_cons, List.filter_nil]

theorem proper_of_mem_names {path name : String} (found : name ∈ names path) :
    '/' ∉ name.toList ∧ isName name.toList = true := by
  obtain ⟨part, kept, rfl⟩ := List.mem_map.mp found
  obtain ⟨split, leads⟩ := List.mem_filter.mp kept
  rw [String.toList_ofList]
  exact ⟨notMem_of_mem_splitAll split, leads⟩

/-! ## The end of a path -/

theorem parts_reverse_dropIdle (path : List Char) :
    parts (dropIdle path).reverse = parts path.reverse := by
  induction path using dropIdle.induct with
  | case1 => rfl
  | case2 => rfl
  | case3 rest _ ih =>
      rw [dropIdle, List.reverse_cons, parts_append, ih]
      · exact (List.append_nil _).symm
      · assumption
  | case4 rest _ ih =>
      rw [dropIdle, List.reverse_cons, List.reverse_cons, List.append_assoc, List.singleton_append,
        parts_append, ih]
      · exact (List.append_nil _).symm
      · assumption
  | case5 path _ _ _ _ => rw [dropIdle] <;> assumption

theorem parts_trimEnd (path : List Char) : parts (trimEnd path) = parts path := by
  rw [trimEnd, parts_reverse_dropIdle, List.reverse_reverse]

theorem mem_of_mem_dropIdle {path : List Char} {c : Char} (found : c ∈ dropIdle path) :
    c ∈ path := by
  induction path using dropIdle.induct with
  | case1 => exact found
  | case2 => exact List.mem_cons_of_mem _ found
  | case3 rest _ ih =>
      rw [dropIdle] at found
      · exact List.mem_cons_of_mem _ (ih found)
      · assumption
  | case4 rest _ ih =>
      rw [dropIdle] at found
      · exact List.mem_cons_of_mem _ (List.mem_cons_of_mem _ (ih found))
      · assumption
  | case5 path _ _ _ _ => rwa [dropIdle] at found <;> assumption

theorem mem_of_mem_trimEnd {path : List Char} {c : Char} (found : c ∈ trimEnd path) : c ∈ path :=
  List.mem_reverse.mp (mem_of_mem_dropIdle (List.mem_reverse.mp found))

/-! ## The last name -/

theorem trimEnd_eq (path : List Char) : trimEnd path = beforeLastName path ++ lastName path := by
  rw [beforeLastName, lastName, ← List.reverse_append, List.takeWhile_append_dropWhile,
    List.reverse_reverse]

theorem slash_notMem_lastName (path : List Char) : '/' ∉ lastName path := by
  intro found
  have other := List.mem_takeWhile_imp (List.mem_reverse.mp found)
  simp at other

theorem beforeLastName_eq (path : List Char) :
    beforeLastName path = [] ∨ ∃ front, beforeLastName path = front ++ ['/'] := by
  rw [beforeLastName]
  have first := List.head?_dropWhile_not (· != '/') (trimEnd path).reverse
  cases rest : (trimEnd path).reverse.dropWhile (· != '/') with
  | nil => exact .inl rfl
  | cons c front =>
      rw [rest, List.head?_cons] at first
      have slash : c = '/' := by simpa using first
      rw [slash, List.reverse_cons]
      exact .inr ⟨_, rfl⟩

theorem parts_beforeLastName_append (path : List Char) {part : List Char} (single : '/' ∉ part) :
    parts (beforeLastName path ++ part) =
      parts (beforeLastName path) ++ if isName part then [part] else [] := by
  rcases beforeLastName_eq path with none | ⟨front, split⟩
  · rw [none, List.nil_append, parts_of_notMem single]
    rfl
  · have idle : parts [] = [] := rfl
    rw [split, List.append_assoc, List.singleton_append, parts_append, parts_append,
      parts_of_notMem single, idle, List.append_nil]

theorem parts_eq (path : List Char) :
    parts path =
      parts (beforeLastName path) ++ if isName (lastName path) then [lastName path] else [] := by
  rw [← parts_trimEnd path, trimEnd_eq,
    parts_beforeLastName_append path (slash_notMem_lastName path)]

/-! ## Extensions -/

theorem mem_of_mem_stem {name : List Char} {c : Char} (found : c ∈ stem name) : c ∈ name := by
  rw [stem] at found
  split at found
  · exact found
  · have dropped := List.mem_of_mem_tail (List.mem_reverse.mp found)
    exact List.mem_reverse.mp ((List.dropWhile_suffix _).mem dropped)

theorem stem_ne_nil {name : List Char} (named : name ≠ []) : stem name ≠ [] := by
  rw [stem]
  split
  · exact named
  · rename_i kept
    exact mt List.isEmpty_iff.mpr kept

theorem stem_append {name extension : List Char} (named : name ≠ []) (plain : '.' ∉ extension) :
    stem (name ++ '.' :: extension) = name := by
  have other : ∀ c ∈ extension.reverse, (c != '.') = true := by
    intro c found
    rw [bne_iff_ne]
    rintro rfl
    exact plain (List.mem_reverse.mp found)
  have front : ((name ++ '.' :: extension).reverse.dropWhile (· != '.')).tail.reverse = name := by
    rw [List.reverse_append, List.reverse_cons, List.append_assoc,
      List.dropWhile_append_of_pos other]
    simp
  rw [stem, front]
  exact if_neg (mt List.isEmpty_iff.mp named)

/-- The names in front of the last one, as long as the path has a last name of its own. -/
def frontNames (path : String) : List String :=
  (parts (beforeLastName path.toList)).map String.ofList

/-- Whether a path ends in a name of its own. -/
def hasOwnName (path : String) : Bool :=
  isName (lastName path.toList) && lastName path.toList != above

theorem names_of_hasOwnName {path : String} (own : hasOwnName path = true) :
    names path = frontNames path ++ [String.ofList (lastName path.toList)] := by
  rw [hasOwnName, Bool.and_eq_true] at own
  rw [names_eq, parts_eq, if_pos own.1, List.map_append, frontNames]
  rfl

/-- A path with another extension differs from the path only in the last name. -/
theorem names_withExtension {path extension : String} (own : hasOwnName path = true)
    (plain : '/' ∉ extension.toList) (nonempty : extension.toList ≠ []) :
    names (withExtension extension path) = frontNames path ++
      [String.ofList (stem (lastName path.toList) ++ '.' :: extension.toList)] := by
  have single : '/' ∉ stem (lastName path.toList) ++ '.' :: extension.toList := by
    simp only [List.mem_append, List.mem_cons, not_or]
    exact ⟨fun found => slash_notMem_lastName _ (mem_of_mem_stem found), by decide, plain⟩
  have name : isName (stem (lastName path.toList) ++ '.' :: extension.toList) = true := by
    have short := List.length_pos_iff.mpr nonempty
    have long : 2 ≤ (stem (lastName path.toList) ++ '.' :: extension.toList).length := by
      rw [List.length_append, List.length_cons]
      omega
    rw [isName, Bool.and_eq_true, bne_iff_ne, bne_iff_ne]
    refine ⟨fun same => ?_, fun same => ?_⟩ <;>
      · rw [same] at long
        exact absurd long (by decide)
  rw [hasOwnName] at own
  rw [withExtension, if_pos own, names_eq, String.toList_ofList, List.append_assoc,
    parts_beforeLastName_append _ single, if_pos name, List.map_append, frontNames]
  rfl

theorem withExtension_of_not_hasOwnName {path : String} (own : hasOwnName path = false)
    (extension : String) : withExtension extension path = path := by
  rw [hasOwnName] at own
  rw [withExtension, own]
  rfl

/-! ## Parents -/

theorem names_of_parent? {path parent : String} (inside : parent? path = some parent) :
    names parent = frontNames path := by
  rw [parent?] at inside
  split at inside
  · cases inside
  · obtain rfl := Option.some.inj inside
    rw [names_eq, String.toList_ofList, parts_trimEnd, frontNames]

theorem mem_of_mem_parent? {path parent : String} (inside : parent? path = some parent) {c : Char}
    (found : c ∈ parent.toList) : c ∈ beforeLastName path.toList := by
  rw [parent?] at inside
  split at inside
  · cases inside
  · obtain rfl := Option.some.inj inside
    rw [String.toList_ofList] at found
    exact mem_of_mem_trimEnd found

end Path
end ProbeWatch
