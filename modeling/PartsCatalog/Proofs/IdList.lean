import PartsCatalog.Filter
import PartsCatalog.Proofs.Attempt
import PartsCatalog.Proofs.EntityId
import PartsCatalog.Proofs.Text.Blank
import PartsCatalog.Proofs.Text.Split

/-!
# Lists of identifiers

A form field with a list of identifiers is read item by item, and the first item that is no
identifier is named.  What lists identifiers in digits, with commas between them, is read as these
identifiers, whatever blanks are around them and whatever blank items are among them
(`id_lists_are_read_item_by_item`).
-/

namespace PartsCatalog

open Text

variable {item left right : String} {parts segments : List String} {id : EntityId}
  {ids : List EntityId} {fault : Fault}

/-! ## Items -/

/-- What is wrong with an item: it writes no identifier. -/
inductive Misread (item : String) : Fault → Prop
  | unwritten (none : ∀ id, ¬ EntityId.Written item id) : Misread item (.idUnreadable item)

theorem message_idUnreadable (item : String) :
    (Fault.idUnreadable item).message = "輸入值不正確: 無效的ID: " ++ item := by
  change "輸入值不正確: " ++ ("無效的ID: " ++ item) = _
  rw [← String.append_assoc]
  rfl

theorem readIdItem_eq_ok_iff : readIdItem item = .ok id ↔ EntityId.Written item id := by
  rw [readIdItem, ← EntityId.ofText?_eq_some_iff]
  cases EntityId.ofText? item <;> simp

theorem readIdItem_eq_error_iff : readIdItem item = .error fault ↔ Misread item fault := by
  rw [readIdItem]
  constructor
  · intro failed
    split at failed
    · cases failed
    · next unread =>
      obtain rfl := Except.error.inj failed
      exact .unwritten (EntityId.ofText?_eq_none_iff.1 unread)
  · rintro ⟨none⟩
    rw [EntityId.ofText?_eq_none_iff.2 none]

/-- The items of the parts between commas: without the blanks around them, and without the blank
ones. -/
def itemsOf (parts : List String) : List String := (parts.map trim).filter (!·.isEmpty)

theorem idItems_intercalate (single : ∀ part ∈ parts, ',' ∉ part.toList) :
    idItems (",".intercalate parts) = itemsOf parts := by
  by_cases none : parts = []
  · rw [none]
    rfl
  · exact congrArg itemsOf (split_intercalate_of_not_mem none single)

theorem readIdList_eq_ok_iff (single : ∀ part ∈ parts, ',' ∉ part.toList) :
    readIdList (",".intercalate parts) = .ok ids ↔
      List.Forall₂ EntityId.Written (itemsOf parts) ids := by
  rw [readIdList, idItems_intercalate single, mapM_eq_ok_iff]
  simp only [readIdItem_eq_ok_iff]

theorem readIdList_eq_error_iff (single : ∀ part ∈ parts, ',' ∉ part.toList) :
    readIdList (",".intercalate parts) = .error fault ↔
      FirstFault Misread (itemsOf parts) fault := by
  rw [readIdList, idItems_intercalate single]
  exact mapM_eq_error_iff fun item fault => readIdItem_eq_error_iff

/-- A list is read where each of its items writes an identifier. -/
theorem exists_readIdList_iff (single : ∀ part ∈ parts, ',' ∉ part.toList) :
    (∃ ids, readIdList (",".intercalate parts) = .ok ids) ↔
      ∀ item ∈ itemsOf parts, ∃ id, EntityId.Written item id := by
  have sound (item : String) :
      (∀ fault, ¬ Misread item fault) ↔ ∃ id, EntityId.Written item id := by
    constructor
    · intro sound
      by_contra none
      exact sound _ (.unwritten (not_exists.1 none))
    · rintro ⟨id, written⟩ _ ⟨none⟩
      exact none id written
  simp only [← sound, ← not_firstFault_iff, ← readIdList_eq_error_iff single]
  constructor
  · rintro ⟨ids, read⟩ fault failed
    cases read.symm.trans failed
  · exact exists_eq_ok

/-! ## Written lists -/

/-- Segments that write a list of identifiers: each in digits, with blanks around it, and blank
segments may stand anywhere among them. -/
inductive WrittenList : List EntityId → List String → Prop
  | nil : WrittenList [] []
  | blank {ids : List EntityId} {segments : List String} {blank : String}
    (isBlank : isBlankText blank) (rest : WrittenList ids segments) :
    WrittenList ids (blank :: segments)
  | item {ids : List EntityId} {segments : List String} {id : EntityId} {left right : String}
    (blankLeft : isBlankText left) (blankRight : isBlankText right)
    (rest : WrittenList ids segments) :
    WrittenList (id :: ids) ((left ++ toString id ++ right) :: segments)

namespace WrittenList

theorem single (written : WrittenList ids segments) :
    ∀ segment ∈ segments, ',' ∉ segment.toList := by
  have noComma {s : String} (blank : isBlankText s) : ',' ∉ s.toList :=
    not_mem_of_isBlankText (by decide) blank
  induction written with
  | nil => nofun
  | blank isBlank _ ih => exact List.forall_mem_cons.2 ⟨noComma isBlank, ih⟩
  | item blankLeft blankRight _ ih =>
    refine List.forall_mem_cons.2 ⟨?_, ih⟩
    rw [String.toList_append, String.toList_append, List.mem_append, List.mem_append, not_or,
      not_or]
    exact ⟨⟨noComma blankLeft, fun member => (Binary64.plain_toString_int member).ne_comma rfl⟩,
      noComma blankRight⟩

theorem trim_item (id : EntityId) (blankLeft : isBlankText left) (blankRight : isBlankText right) :
    trim (left ++ toString id ++ right) = toString id := by
  rw [trim_blanks_around blankLeft blankRight]
  exact trim_of_trimmed (trimmed_of_plain fun c => Binary64.plain_toString_int)

theorem toString_ne_empty (id : EntityId) : (toString id).isEmpty = false := by
  rw [Bool.eq_false_iff, Ne, String.isEmpty_iff, ← String.toList_eq_nil_iff]
  exact (denotesInt_toString id).ne_nil

/-- The items of a written list are its identifiers in digits. -/
theorem itemsOf_eq (written : WrittenList ids segments) :
    itemsOf segments = ids.map fun id => toString id := by
  induction written with
  | nil => rfl
  | blank isBlank _ ih =>
    rw [itemsOf, List.map_cons, List.filter_cons_of_neg (by simpa using isBlankText_iff.1 isBlank)]
    exact ih
  | @item ids _ id _ _ blankLeft blankRight _ ih =>
    rw [itemsOf, List.map_cons, trim_item id blankLeft blankRight,
      List.filter_cons_of_pos (by rw [toString_ne_empty]; rfl), List.map_cons]
    exact congrArg (toString id :: ·) ih

end WrittenList

/-- **A list of identifiers is read item by item.**  Every text is the parts between its commas, of
which the blank ones are left out and the others are taken without the blanks around them.  It is
read as the identifiers that these items write, one for each and in their order; where an item
writes none, the first such item is named as an incorrect value.  What writes a list of identifiers
in digits, with blanks around them and blank parts among them, is read as this list. -/
theorem id_lists_are_read_item_by_item :
    (∀ raw, ∃ parts, parts ≠ [] ∧ ",".intercalate parts = raw ∧
      (∀ part ∈ parts, ',' ∉ part.toList) ∧
      (∀ ids, readIdList raw = .ok ids ↔
        List.Forall₂ EntityId.Written ((parts.map trim).filter (!·.isEmpty)) ids) ∧
      ((∃ ids, readIdList raw = .ok ids) ↔
        ∀ item ∈ (parts.map trim).filter (!·.isEmpty), ∃ id, EntityId.Written item id) ∧
      ∀ fault, readIdList raw = .error fault ↔
        FirstFault Misread ((parts.map trim).filter (!·.isEmpty)) fault) ∧
    (∀ item fault, Misread item fault →
      fault.kind = .incorrectValue ∧ fault.message = "輸入值不正確: 無效的ID: " ++ item) ∧
    ∀ ids segments, WrittenList ids segments → (∀ id ∈ ids, EntityId.inRange id) →
      readIdList (",".intercalate segments) = .ok ids := by
  refine ⟨fun raw => ?_, ?_, fun ids segments written inRange => ?_⟩
  · have single : ∀ part ∈ split ',' raw, ',' ∉ part.toList := fun part => not_mem_of_mem_split
    have joined : ",".intercalate (split ',' raw) = raw := intercalate_split ',' raw
    refine ⟨split ',' raw, split_ne_nil ',' raw, joined, single, fun ids => ?_, ?_, fun fault => ?_⟩
    all_goals nth_rewrite 1 [← joined]
    · exact readIdList_eq_ok_iff single
    · exact exists_readIdList_iff single
    · exact readIdList_eq_error_iff single
  · rintro item _ ⟨none⟩
    exact ⟨rfl, message_idUnreadable item⟩
  · rw [readIdList_eq_ok_iff written.single, written.itemsOf_eq, List.forall₂_map_left_iff,
      List.forall₂_same]
    exact fun id member => EntityId.written_toString (inRange id member)

/-- Two identifiers among blanks are read, the smallest of all included; one past the largest is no
identifier. -/
theorem smallest_id_is_read :
    WrittenList [5, EntityId.least] [" 5 ", "", "\t-9223372036854775808"] ∧
    (∀ id ∈ [5, EntityId.least], EntityId.inRange id) ∧
    readIdList " 5 ,,\t-9223372036854775808" = .ok [5, EntityId.least] ∧
    Misread "9223372036854775808" (.idUnreadable "9223372036854775808") ∧
    (Fault.idUnreadable "9223372036854775808").message =
      "輸入值不正確: 無效的ID: 9223372036854775808" := by
  have first : " " ++ toString (5 : EntityId) ++ " " = " 5 " := by decide
  have last : "\t" ++ toString EntityId.least ++ "" = "\t-9223372036854775808" := by decide
  have joined : ",".intercalate [" 5 ", "", "\t-9223372036854775808"] =
      " 5 ,,\t-9223372036854775808" := by decide
  have written : WrittenList [5, EntityId.least] [" 5 ", "", "\t-9223372036854775808"] := by
    rw [← first, ← last]
    exact .item (by decide) (by decide) (.blank (by decide) (.item (by decide) (by decide) .nil))
  have inRange : ∀ id ∈ [5, EntityId.least], EntityId.inRange id := by decide
  have misread : Misread "9223372036854775808" (.idUnreadable "9223372036854775808") :=
    .unwritten (EntityId.ofText?_eq_none_iff.1 (by decide))
  obtain ⟨-, faults, lists⟩ := id_lists_are_read_item_by_item
  refine ⟨written, inRange, ?_, misread, (faults _ _ misread).2⟩
  rw [← joined]
  exact lists _ _ written inRange

end PartsCatalog
