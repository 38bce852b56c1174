import PartsCatalog.Proofs.Text.PathName
import PartsCatalog.StorageName

/-!
# Names of stored files

What a file is called when it comes decides nothing about where it is stored: its name gives at most
the extension, and the stored name is one more component below any folder
(`stored_names_stay_in_their_folder`).
-/

namespace PartsCatalog.StorageName

open Text

variable {byte : UInt8} {random : List UInt8} {c : Char} {uploadName : String} {ext : List Char}

/-! ## Random digits -/

/-- The lower-case hexadecimal digits. -/
def hexDigits : List Char := "0123456789abcdef".toList

theorem digitChar_mem_hexDigits {n : Nat} (small : n < 16) : n.digitChar ∈ hexDigits := by
  have each : ∀ n < 16, n.digitChar ∈ hexDigits := by decide
  exact each n small

theorem mem_hexDigits_of_mem_hexByte (member : c ∈ hexByte byte) : c ∈ hexDigits := by
  have bound : byte.toNat < 256 := byte.toNat_lt
  rcases List.mem_pair.1 member with rfl | rfl
  · exact digitChar_mem_hexDigits (by omega)
  · exact digitChar_mem_hexDigits (by omega)

theorem length_flatMap_hexByte (bytes : List UInt8) :
    (bytes.flatMap hexByte).length = 2 * bytes.length := by
  induction bytes with
  | nil => rfl
  | cons byte bytes ih =>
    have two : (hexByte byte).length = 2 := rfl
    rw [List.flatMap_cons, List.length_append, ih, List.length_cons, two]
    omega

theorem length_markRandom (random : List UInt8) : (markRandom random).length = random.length :=
  List.length_mapIdx

/-- The digits of a stored name. -/
def randomDigits (random : List UInt8) : List Char := (markRandom random).flatMap hexByte

theorem mem_hexDigits_of_mem_randomDigits (member : c ∈ randomDigits random) : c ∈ hexDigits := by
  obtain ⟨byte, -, inside⟩ := List.mem_flatMap.1 member
  exact mem_hexDigits_of_mem_hexByte inside

theorem length_randomDigits (random : List UInt8) :
    (randomDigits random).length = 2 * random.length := by
  rw [randomDigits, length_flatMap_hexByte, length_markRandom]

/-! ## Extensions -/

theorem extension_eq_of_hasExtension (has : HasExtension uploadName.toList ext) :
    extension uploadName = String.ofList ext := by
  obtain ⟨found, given⟩ := hasExtension_iff.1 has
  have shown : (String.ofList ext).isEmpty = false := by
    rw [Bool.eq_false_iff, Ne, String.isEmpty_iff, String.ofList_eq_empty_iff]
    exact given
  simp only [extension, pathExtension?, found, Option.map_some, shown, Bool.false_eq_true, if_false]

theorem extension_eq_bin (plain : ∀ ext, ¬ HasExtension uploadName.toList ext) :
    extension uploadName = "bin" := by
  rw [extension, pathExtension?]
  cases found : (pathComponents uploadName.toList).getLast?.bind nameExtension? with
  | none => rfl
  | some ext =>
    have empty : ext = [] := by_contra fun given => plain ext (hasExtension_iff.2 ⟨found, given⟩)
    rw [empty]
    rfl

/-- An extension is not empty and has neither slashes nor points in it. -/
theorem extension_is_plain (uploadName : String) :
    extension uploadName ≠ "" ∧ '/' ∉ (extension uploadName).toList ∧
      '.' ∉ (extension uploadName).toList := by
  by_cases kept : ∃ ext, HasExtension uploadName.toList ext
  · obtain ⟨ext, has⟩ := kept
    obtain ⟨-, -, -, given, last⟩ := id has
    rw [extension_eq_of_hasExtension has, String.toList_ofList, Ne, String.ofList_eq_empty_iff]
    exact ⟨given, has.not_mem_slash, last⟩
  · rw [extension_eq_bin (not_exists.1 kept)]
    decide

/-! ## Stored names -/

theorem toList_unique (random : List UInt8) (uploadName : String) :
    (unique random uploadName).toList =
      randomDigits random ++ '.' :: (extension uploadName).toList := by
  rw [unique, String.toList_append, String.toList_append, String.toList_ofList, List.append_assoc]
  rfl

theorem slash_not_mem_unique (random : List UInt8) (uploadName : String) :
    '/' ∉ (unique random uploadName).toList := by
  have noDigit : '/' ∉ hexDigits := by decide
  rw [toList_unique, List.mem_append, List.mem_cons, not_or, not_or]
  exact ⟨mt mem_hexDigits_of_mem_randomDigits noDigit, by decide,
    (extension_is_plain uploadName).2.1⟩

/-- Below any folder a stored name is one component more, and no other component changes. -/
theorem pathComponents_joinPath_unique (folder : String) (some : random ≠ [])
    (uploadName : String) :
    pathComponents (joinPath folder (unique random uploadName)).toList =
      pathComponents folder.toList ++ [(unique random uploadName).toList] := by
  have long : 1 < (unique random uploadName).toList.length := by
    have bytes := List.length_pos_iff.2 some
    rw [toList_unique, List.length_append, length_randomDigits, List.length_cons]
    omega
  refine pathComponents_joinPath folder (slash_not_mem_unique random uploadName) ?_ ?_
  · intro empty
    rw [empty] at long
    exact absurd long (by decide)
  · intro point
    rw [point] at long
    exact absurd long (by decide)

/-- **A stored name stays in its folder.**  It is thirty-two lower-case hexadecimal digits, a point
and an extension, which is not empty and has neither slashes nor points in it.  The extension is
what stands behind the last point of the last component of the name that the file came with, if
something stands on both sides of that point, and `bin` if not.  Below any folder the stored name is
one component more, and no other component changes. -/
theorem stored_names_stay_in_their_folder (random : List UInt8) (sixteen : random.length = 16)
    (uploadName : String) :
    ∃ stem ext : String, unique random uploadName = stem ++ "." ++ ext ∧
      stem.length = 32 ∧ (∀ c ∈ stem.toList, c ∈ hexDigits) ∧
      ext ≠ "" ∧ '/' ∉ ext.toList ∧ '.' ∉ ext.toList ∧
      (∀ kept, HasExtension uploadName.toList kept → ext = String.ofList kept) ∧
      ((∀ kept, ¬ HasExtension uploadName.toList kept) → ext = "bin") ∧
      ∀ folder, pathComponents (joinPath folder (unique random uploadName)).toList =
        pathComponents folder.toList ++ [(unique random uploadName).toList] := by
  obtain ⟨given, noSlash, noPoint⟩ := extension_is_plain uploadName
  have length : (String.ofList (randomDigits random)).length = 32 := by
    rw [String.length_ofList, length_randomDigits, sixteen]
  have digits : ∀ c ∈ (String.ofList (randomDigits random)).toList, c ∈ hexDigits := by
    rw [String.toList_ofList]
    exact fun c => mem_hexDigits_of_mem_randomDigits
  have some : random ≠ [] := List.length_pos_iff.1 (sixteen ▸ by decide)
  exact ⟨String.ofList (randomDigits random), extension uploadName, rfl, length, digits, given,
    noSlash, noPoint, fun kept => extension_eq_of_hasExtension, extension_eq_bin,
    fun folder => pathComponents_joinPath_unique folder some uploadName⟩

/-- A name that points out of the folder gives its extension alone, and one that ends in the folder
above gives none. -/
theorem report_is_stored_as_gz :
    (List.replicate 16 (0xAB : UInt8)).length = 16 ∧
    HasExtension "../../etc/report.tar.gz/./".toList "gz".toList ∧
    (∃ stem : String, stem.length = 32 ∧
      unique (List.replicate 16 0xAB) "../../etc/report.tar.gz/./" = stem ++ "." ++ "gz") ∧
    ∃ stem : String, stem.length = 32 ∧
      unique (List.replicate 16 0xAB) "report.gz/.." = stem ++ "." ++ "bin" := by
  have ends : EndsIn "../../etc/report.tar.gz/./".toList "report.tar.gz".toList :=
    ⟨by decide, by decide, by decide, "../../etc/".toList, "/./".toList, by decide,
      fun _ last => (Option.some.inj last).symm, .point (.slash .nil)⟩
  have has : HasExtension "../../etc/report.tar.gz/./".toList "gz".toList :=
    ⟨"report.tar".toList, ends, by decide, by decide, by decide⟩
  have plain : ∀ kept, ¬ HasExtension "report.gz/..".toList kept := by
    intro kept has
    have none : (pathComponents "report.gz/..".toList).getLast?.bind nameExtension? = none := by
      decide
    cases none.symm.trans (hasExtension_iff.1 has).1
  obtain ⟨stem, ext, stored, length, -, -, -, -, keeps, -⟩ :=
    stored_names_stay_in_their_folder (List.replicate 16 0xAB) (by decide)
      "../../etc/report.tar.gz/./"
  obtain ⟨stem', ext', stored', length', -, -, -, -, -, loses, -⟩ :=
    stored_names_stay_in_their_folder (List.replicate 16 0xAB) (by decide) "report.gz/.."
  rw [keeps _ has, String.ofList_toList] at stored
  rw [loses plain] at stored'
  exact ⟨by decide, has, ⟨stem, length, stored⟩, stem', length', stored'⟩

end PartsCatalog.StorageName
