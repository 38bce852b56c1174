import PartsCatalog.Cell.Basic
import PartsCatalog.Clock
import PartsCatalog.EntityId
import PartsCatalog.Limits

/-!
# Faults

Everything that can go wrong, by its cause.  Each cause has a kind, which says how a caller is to
take it, and a detail; the message is the kind's heading with the detail behind it.
-/

namespace PartsCatalog

/-! ## Kinds -/

/-- How a caller is to take a fault. -/
inductive FaultKind where
  | notFound
  | alreadyExists
  | mustBeFilled
  | incorrectValue
  | internal
  | authenticationFailed
deriving DecidableEq

/-- The message of a kind with a detail.  A failed authentication says nothing of its reason. -/
def FaultKind.message (detail : String) : FaultKind → String
  | notFound => "找不到資料: " ++ detail
  | alreadyExists => "資料已存在: " ++ detail
  | mustBeFilled => "必填欄位未填寫: " ++ detail
  | incorrectValue => "輸入值不正確: " ++ detail
  | internal => "內部錯誤: " ++ detail
  | authenticationFailed => "認證失敗"

/-- Whether the message may be shown to the person at the other end. -/
def FaultKind.isClientFacing : FaultKind → Bool
  | internal => false
  | _ => true

/-! ## Causes -/

/-- What went wrong. -/
inductive Fault where
  | unitMissing (id : EntityId)
  | materialMissing (id : EntityId)
  | productMissing (id : EntityId)
  | fileMissing (id : EntityId)
  | unitNameTaken (name : String)
  | nameMissing
  | fieldBlank (field : String)
  | nameLength (name : String)
  | descriptionTooLong
  | uploadTooLarge (bytes : Nat)
  | mediaTypeRefused (mediaType : String)
  | unitInUse (id : EntityId) (materials : Nat)
  | notAnImage (id : EntityId)
  | boundUnreadable (bound raw : String)
  | idUnreadable (raw : String)
  | nothingToProduce
  | stockInvalid (id : EntityId) (stock : Binary64)
  | settingsUnreadable
  | portRefused (port : Nat)
  | logLevelUnknown (raw : String)
  | sessionHoursRefused (hours : Nat)
  | sessionSpanNotPositive
  | sessionSpanTooLong
  | passwordHashMalformed
  | cellIdUnreadable (column raw : String)
  | cellIdOutOfRange (column : String) (value : Decimal)
  | cellNotAnId (column : String) (cell : Cell)
  | cellNumberInvalid (column : String) (value : Binary64)
  | cellNumberOutOfRange (column : String) (value : Decimal)
  | productNameMissing (materialId : EntityId)
  | materialUnitMissing (productId materialId : EntityId)
  | passwordHashUnreadable
  | expiryOutOfRange (ttl : Duration)
  | wrongPassword

namespace Fault

/-- The kind of a fault. -/
def kind : Fault → FaultKind
  | unitMissing _ | materialMissing _ | productMissing _ | fileMissing _ => .notFound
  | unitNameTaken _ => .alreadyExists
  | nameMissing | fieldBlank _ => .mustBeFilled
  | nameLength _ | descriptionTooLong | uploadTooLarge _ | mediaTypeRefused _ | unitInUse ..
  | notAnImage _ | boundUnreadable .. | idUnreadable _ | nothingToProduce | stockInvalid ..
  | settingsUnreadable | portRefused _ | logLevelUnknown _ | sessionHoursRefused _
  | sessionSpanNotPositive | sessionSpanTooLong | passwordHashMalformed => .incorrectValue
  | cellIdUnreadable .. | cellIdOutOfRange .. | cellNotAnId .. | cellNumberInvalid ..
  | cellNumberOutOfRange .. | productNameMissing _ | materialUnitMissing ..
  | passwordHashUnreadable | expiryOutOfRange _ => .internal
  | wrongPassword => .authenticationFailed

/-- What a message says about a fault behind the heading of its kind. -/
def detail : Fault → String
  | unitMissing id => s!"單位 {id}"
  | materialMissing id => s!"物料 {id}"
  | productMissing id => s!"產品 {id}"
  | fileMissing id => s!"附件 {id}"
  | unitNameTaken name => s!"單位 {name}"
  | nameMissing => "至少需要一個名稱"
  | fieldBlank field => field
  | nameLength name =>
    s!"名稱長度必須介於 {Limits.nameLeast} 到 {Limits.nameMost} 字元: {Text.quote name}"
  | descriptionTooLong => s!"描述過長（上限 {Limits.descriptionMost} 字元）"
  | uploadTooLarge bytes =>
    s!"檔案過大: {bytes / 1024} KiB，上限 {Limits.uploadMost / 1024} KiB"
  | mediaTypeRefused mediaType => s!"不允許的檔案類型: {mediaType}"
  | unitInUse id materials => s!"單位 {id} 仍被 {materials} 個物料使用"
  | notAnImage id => s!"附件 {id} 不是圖片"
  | boundUnreadable bound raw => s!"{bound}無法解析: {raw}"
  | idUnreadable raw => s!"無效的ID: {raw}"
  | nothingToProduce => "生產數量必須大於 0"
  | stockInvalid id stock => s!"物料 {id} 的庫存無效: {stock.text}"
  | settingsUnreadable => "配置格式錯誤"
  | portRefused port =>
    s!"伺服器埠必須為 0 或介於 {Limits.portLeast} 到 {Limits.portMost}: {port}"
  | logLevelUnknown raw => s!"不支援的日誌等級: {raw}"
  | sessionHoursRefused hours => s!"會話有效時數不可超過 {Limits.sessionHoursMost}: {hours}"
  | sessionSpanNotPositive => "會話有效時間必須為正"
  | sessionSpanTooLong => s!"會話有效時間不可超過 {Limits.sessionHoursMost} 小時"
  | passwordHashMalformed => "密碼雜湊格式錯誤"
  | cellIdUnreadable column raw => s!"欄位 {column} 的ID無法解析: {Text.quote raw}"
  | cellIdOutOfRange column value => s!"欄位 {column} 的ID超出範圍: {value.text}"
  | cellNotAnId column cell => s!"欄位 {column} 的ID型別不正確: {cell.describe}"
  | cellNumberInvalid column value => s!"欄位 {column} 的數值無效: {value.text}"
  | cellNumberOutOfRange column value => s!"欄位 {column} 的數值無法轉換: {value.text}"
  | productNameMissing id => s!"物料 {id} 的資料列缺少產品名稱"
  | materialUnitMissing productId materialId => s!"產品 {productId} 的物料 {materialId} 缺少單位"
  | passwordHashUnreadable => "無法解析密碼雜湊"
  | expiryOutOfRange ttl => s!"會話到期時間溢位: {ttl.text}"
  | wrongPassword => ""

/-- The whole message of a fault. -/
def message (fault : Fault) : String := fault.kind.message fault.detail

/-- Whether the message may be shown to the person at the other end. -/
def isClientFacing (fault : Fault) : Bool := fault.kind.isClientFacing

end Fault

end PartsCatalog
