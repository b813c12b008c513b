import Entitlement.Proofs.Json.Joined
import Entitlement.Proofs.Json.Writable
import Entitlement.Proofs.Outcome
import Entitlement.Proofs.Store.Table
import Entitlement.Store.Basic

/-! # Rows written, found and read

A stored license that can be written is read from its row again, with its data as reading back
leaves it (`Store.ofRow_row`); joined data comes back as it was (`Store.ofRow_row_of_joined`). A row
is found under the organization and the id that it has, before and after it is updated
(`Table.find?_append_row`, `Table.find?_map_updated`). -/

namespace Entitlement

namespace Store

theorem ofRow_row {stored : StoredLicense} (h : stored.data.checkWritable = .ok ()) :
    ofRow stored.row = .ok { stored with data := stored.data.reread .stored } := by
  obtain ⟨hw, hd⟩ := Json.checkWritable_eq_ok_iff.mp h
  have hdecode : Json.decode stored.row.data = .ok (stored.data.reread .stored) :=
    Json.decode_storedText hd hw
  rw [ofRow, hdecode]
  rfl

theorem ofRow_row_of_joined {stored : StoredLicense} (h : stored.data.checkWritable = .ok ())
    {depth : Nat} (fits : stored.data.Fits depth) (joined : stored.data.isJoined = true) :
    ofRow stored.row = .ok stored := by
  rw [ofRow_row h, Json.reread_of_joined fits joined]

theorem identity_of_ofRow {row : Row} {stored : StoredLicense} (h : ofRow row = .ok stored) :
    stored.row.identity = row.identity := by
  unfold ofRow at h
  obtain ⟨data, -, rfl⟩ := Outcome.map_eq_ok_iff.mp h
  rfl

end Store

namespace Row

theorem isAt_row (stored : StoredLicense) (organization id : Uuid) :
    stored.row.isAt organization id = true ↔
      stored.organization = organization ∧ stored.id = id := isAt_iff

theorem isAt_updated (organization id o i : Uuid) (data : Text) (updatedAt lastValidatedAt : DateTime)
    (row : Row) : (row.updated o i data updatedAt lastValidatedAt).isAt organization id =
      row.isAt organization id :=
  isAt_congr (identity_updated o i data updatedAt lastValidatedAt row) organization id

end Row

namespace Table

variable (table : Table) (organization id : Uuid)

theorem find?_append_row (row : Row) :
    (table ++ [row]).find? (·.isAt organization id) =
      (table.find? (·.isAt organization id)).or
        (if row.isAt organization id then some row else none) := by
  rw [List.find?_append, List.find?_singleton]

theorem find?_map_updated (o i : Uuid) (data : Text) (updatedAt lastValidatedAt : DateTime) :
    (table.map (Row.updated o i data updatedAt lastValidatedAt)).find? (·.isAt organization id) =
      (table.find? (·.isAt organization id)).map
        (Row.updated o i data updatedAt lastValidatedAt) := by
  rw [List.find?_map]
  simp only [Function.comp_def, Row.isAt_updated]

end Table

end Entitlement
