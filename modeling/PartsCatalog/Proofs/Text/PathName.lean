import Mathlib.Data.List.Induction
import Mathlib.Data.List.TakeWhile
import PartsCatalog.Proofs.Text.Split
import PartsCatalog.Text.PathName

/-!
# Laws of path names

The last component of a path is the last text between slashes that names something: what follows it
are slashes and single points (`getLast?_pathComponents_iff`).  Its extension is what stands behind
its last point, if something stands before that point (`nameExtension?_eq_some_iff`).  A name
without a slash that is put below a folder is one component more, and nothing else
(`pathComponents_joinPath`).
-/

namespace PartsCatalog.Text

variable {path cs before after component name ext : List Char}

/-! ## What paths end in -/

/-- The end of a path that names nothing: slashes, with single points between them. -/
inductive Idle : List Char → Prop
  | nil : Idle []
  | slash {rest : List Char} (idle : Idle rest) : Idle ('/' :: rest)
  | point {rest : List Char} (idle : Idle rest) : Idle ('/' :: '.' :: rest)

/-- The last component of a path: it is between slashes, names something, and nothing behind it
does. -/
structure EndsIn (path component : List Char) : Prop where
  single : '/' ∉ component
  nonempty : component ≠ []
  notHere : component ≠ ['.']
  placed : ∃ before after, path = before ++ component ++ after ∧
    (∀ c ∈ before.getLast?, c = '/') ∧ Idle after

/-- The extension of the file that a path names: what stands behind the last point of the last
component, where something stands on both sides of that point.  So the component is not `..`. -/
def HasExtension (path ext : List Char) : Prop :=
  ∃ stem, EndsIn path (stem ++ '.' :: ext) ∧ stem ≠ [] ∧ ext ≠ [] ∧ '.' ∉ ext

/-! ## Components -/

/-- Slashes and single points behind something that names nothing. -/
theorem idle_flatMap {parts : List (List Char)}
    (unnamed : ∀ part ∈ parts, part = [] ∨ part = ['.']) : Idle (parts.flatMap ('/' :: ·)) := by
  induction parts with
  | nil => exact .nil
  | cons part parts ih =>
    obtain ⟨first, rest⟩ := List.forall_mem_cons.1 unnamed
    rw [List.flatMap_cons]
    rcases first with rfl | rfl
    · exact .slash (ih rest)
    · exact .point (ih rest)

/-- Joined parts as one of them with what is before and behind it. -/
theorem intercalate_eq_around (separator : Char) (before after : List (List Char))
    (part : List Char) :
    [separator].intercalate (before ++ part :: after) =
      before.flatMap (· ++ [separator]) ++ part ++ after.flatMap (separator :: ·) := by
  induction before with
  | nil =>
    induction after generalizing part with
    | nil => simp
    | cons next after ih =>
      have joined := ih next
      simp only [List.nil_append, List.flatMap_nil] at joined ⊢
      rw [List.intercalate_cons_cons, joined, List.flatMap_cons]
      simp
  | cons first before ih =>
    rw [List.cons_append, List.intercalate_cons_of_ne_nil (by simp), ih, List.flatMap_cons]
    simp

theorem getLast?_flatMap_separator {separator c : Char} {parts : List (List Char)}
    (last : c ∈ (parts.flatMap (· ++ [separator])).getLast?) : c = separator := by
  rcases List.eq_nil_or_concat' parts with rfl | ⟨front, part, rfl⟩
  · cases last
  · rw [List.flatMap_append, List.flatMap_singleton, ← List.append_assoc,
      List.getLast?_concat] at last
    exact (Option.some.inj last).symm

theorem pathComponents_append (cs ds : List Char) :
    pathComponents (cs ++ '/' :: ds) = pathComponents cs ++ pathComponents ds := by
  rw [pathComponents, splitChars_append, List.filter_append, pathComponents, pathComponents]

theorem pathComponents_single (single : '/' ∉ component) (nonempty : component ≠ [])
    (notHere : component ≠ ['.']) : pathComponents component = [component] := by
  rw [pathComponents, splitChars_of_not_mem single]
  exact List.filter_cons_of_pos (by simp [nonempty, notHere])

theorem pathComponents_append_idle (cs : List Char) (idle : Idle after) :
    pathComponents (cs ++ after) = pathComponents cs := by
  induction idle generalizing cs with
  | nil => rw [List.append_nil]
  | @slash rest _ ih =>
    have nothing : pathComponents rest = [] := ih []
    rw [pathComponents_append, nothing, List.append_nil]
  | @point rest _ ih =>
    have nothing : pathComponents ('.' :: rest) = [] := ih ['.']
    rw [pathComponents_append, nothing, List.append_nil]

theorem EndsIn.getLast?_pathComponents (ends : EndsIn path component) :
    (pathComponents path).getLast? = some component := by
  obtain ⟨before, after, rfl, slash, idle⟩ := ends.placed
  have alone := pathComponents_single ends.single ends.nonempty ends.notHere
  rw [pathComponents_append_idle _ idle]
  rcases List.eq_nil_or_concat' before with rfl | ⟨front, c, rfl⟩
  · rw [List.nil_append, alone, List.getLast?_singleton]
  · obtain rfl := slash c List.getLast?_concat
    rw [List.append_assoc, List.singleton_append, pathComponents_append, alone,
      List.getLast?_concat]

theorem endsIn_of_getLast? (last : (pathComponents path).getLast? = some component) :
    EndsIn path component := by
  obtain ⟨front, components⟩ := List.getLast?_eq_some_iff.1 last
  -- the component among all parts: those behind it are left out
  obtain ⟨earlier, rest, parts, -, atLast⟩ := List.filter_eq_append_iff.1 components
  obtain ⟨skipped, behind, rfl, -, named, leftOut⟩ := List.filter_eq_cons_iff.1 atLast
  have unnamed : ∀ part ∈ behind, part = [] ∨ part = ['.'] := by
    intro part member
    have out := List.filter_eq_nil_iff.1 leftOut part member
    simpa [or_iff_not_imp_left] using out
  rw [Bool.and_eq_true, bne_iff_ne, bne_iff_ne] at named
  have whole := intercalate_splitChars '/' path
  rw [parts, ← List.append_assoc, intercalate_eq_around] at whole
  have inside : component ∈ splitChars '/' path := by simp [parts]
  exact ⟨not_mem_of_mem_splitChars inside, named.1, named.2, _, _, whole.symm,
    fun c => getLast?_flatMap_separator, idle_flatMap unnamed⟩

/-- A path ends in its last component. -/
theorem getLast?_pathComponents_iff :
    (pathComponents path).getLast? = some component ↔ EndsIn path component :=
  ⟨endsIn_of_getLast?, EndsIn.getLast?_pathComponents⟩

/-! ## Extensions -/

/-- What stands behind the last point of a name. -/
theorem takeWhile_reverse_of_last_point (stem : List Char) (last : '.' ∉ ext) :
    (stem ++ '.' :: ext).reverse.takeWhile (· != '.') = ext.reverse := by
  have passes : ∀ c ∈ ext.reverse, (c != '.') = true := fun c member =>
    bne_iff_ne.2 fun same => last (same ▸ List.mem_reverse.1 member)
  rw [List.reverse_append, List.reverse_cons, List.append_assoc,
    List.takeWhile_append_of_pos passes, List.singleton_append,
    List.takeWhile_cons_of_neg (by decide), List.append_nil]

theorem exists_last_point (point : '.' ∈ name) :
    ∃ stem ext, name = stem ++ '.' :: ext ∧ '.' ∉ ext := by
  obtain ⟨behind, before, split, first⟩ := List.eq_append_cons_of_mem (List.mem_reverse.2 point)
  refine ⟨before.reverse, behind.reverse, ?_, mt List.mem_reverse.1 first⟩
  rw [← List.reverse_reverse name, split]
  simp

theorem nameExtension?_of_last_point {stem : List Char} (last : '.' ∉ ext) :
    nameExtension? (stem ++ '.' :: ext) =
      if stem ++ '.' :: ext = ['.', '.'] ∨ stem = [] then none else some ext := by
  rw [nameExtension?, takeWhile_reverse_of_last_point stem last, List.reverse_reverse]
  refine if_congr ?_ rfl rfl
  rw [Bool.or_eq_true, beq_iff_eq, decide_eq_true_eq, List.length_append, List.length_cons,
    List.length_reverse, ← List.length_eq_zero_iff]
  exact or_congr_right (by omega)

theorem nameExtension?_of_no_point (plain : '.' ∉ name) : nameExtension? name = none := by
  have passes : ∀ c ∈ name.reverse, (c != '.') = true := fun c member =>
    bne_iff_ne.2 fun same => plain (same ▸ List.mem_reverse.1 member)
  have all : name.reverse.takeWhile (· != '.') = name.reverse := List.takeWhile_eq_self_iff.2 passes
  rw [nameExtension?, all, List.length_reverse]
  exact if_pos (by simp)

theorem nameExtension?_eq_some_iff :
    nameExtension? name = some ext ↔
      name ≠ ['.', '.'] ∧ ∃ stem, name = stem ++ '.' :: ext ∧ stem ≠ [] ∧ '.' ∉ ext := by
  constructor
  · intro found
    by_cases point : '.' ∈ name
    · obtain ⟨stem, behind, rfl, last⟩ := exists_last_point point
      rw [nameExtension?_of_last_point last] at found
      split at found
      · cases found
      · next proper =>
        obtain rfl := Option.some.inj found
        exact ⟨mt .inl proper, stem, rfl, mt .inr proper, last⟩
    · rw [nameExtension?_of_no_point point] at found
      cases found
  · rintro ⟨proper, stem, rfl, nonempty, last⟩
    rw [nameExtension?_of_last_point last, if_neg (not_or.2 ⟨proper, nonempty⟩)]

/-- The extension of a path is the one that is found, unless nothing stands behind the point. -/
theorem hasExtension_iff :
    HasExtension path ext ↔
      (pathComponents path).getLast?.bind nameExtension? = some ext ∧ ext ≠ [] := by
  simp only [Option.bind_eq_some_iff, getLast?_pathComponents_iff, nameExtension?_eq_some_iff]
  constructor
  · rintro ⟨stem, ends, nonempty, given, last⟩
    refine ⟨⟨_, ends, fun proper => ?_, stem, rfl, nonempty, last⟩, given⟩
    have lengths := congrArg List.length proper
    have front := List.length_pos_iff.2 nonempty
    have behind := List.length_pos_iff.2 given
    simp only [List.length_append, List.length_cons, List.length_nil] at lengths
    omega
  · rintro ⟨⟨_, ends, -, stem, rfl, nonempty, last⟩, given⟩
    exact ⟨stem, ends, nonempty, given, last⟩

theorem HasExtension.not_mem_slash (has : HasExtension path ext) : '/' ∉ ext := by
  obtain ⟨stem, ends, -⟩ := has
  intro member
  exact ends.single (List.mem_append_right stem (List.mem_cons_of_mem '.' member))

/-! ## Names below a folder -/

theorem startsWith_slash_of_not_mem {name : String} (single : '/' ∉ name.toList) :
    name.startsWith "/" = false := by
  rw [String.startsWith_string_eq_false_iff]
  rintro ⟨rest, split⟩
  exact single (split ▸ List.mem_append_left rest List.mem_cons_self)

theorem endsWith_slash_iff {folder : String} :
    folder.endsWith "/" ↔ ∃ front, folder.toList = front ++ ['/'] := by
  rw [← String.endsWith_toSlice, String.Slice.endsWith_string_iff, String.copy_toSlice]
  exact exists_congr fun front => eq_comm

/-- A name without a slash is one component more below any folder. -/
theorem pathComponents_joinPath {name : String} (folder : String) (single : '/' ∉ name.toList)
    (nonempty : name.toList ≠ []) (notHere : name.toList ≠ ['.']) :
    pathComponents (joinPath folder name).toList =
      pathComponents folder.toList ++ [name.toList] := by
  have alone := pathComponents_single single nonempty notHere
  rw [joinPath, startsWith_slash_of_not_mem single, if_neg Bool.false_ne_true]
  split
  · next joined =>
    rw [String.toList_append]
    rcases Bool.or_eq_true_iff.1 joined with empty | slash
    · rw [String.isEmpty_iff.1 empty]
      exact alone
    · obtain ⟨front, split⟩ := endsWith_slash_iff.1 slash
      have folded := pathComponents_append front []
      rw [split, folded, List.append_assoc, List.singleton_append, pathComponents_append, alone]
      exact congrArg (· ++ [name.toList]) (List.append_nil _).symm
  · rw [String.toList_append, String.toList_append, List.append_assoc, ← alone]
    exact pathComponents_append folder.toList name.toList

end PartsCatalog.Text
