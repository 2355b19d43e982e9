import DocAudit.Proofs.Files.Writing
import DocAudit.Proofs.Results
import DocAudit.Report.Delivery

/-!
# What a delivery does to the file tree

Storing a text makes directories first and puts the file last, so there is one point before which no
file has changed and behind which everything has succeeded. A delivery stores the report in the format
of the settings; whether and where it is echoed has no part in that.
-/

namespace DocAudit

/-- The regular files of one tree are those of another one, but for what stands at a location. -/
def FileTree.KeepsOtherFiles (location : Location) (before after : FileTree) : Prop :=
  ∀ other, other ≠ location → ∀ bytes, after.get? other = some (.file bytes) ↔
    before.get? other = some (.file bytes)

namespace Report

variable {tree : FileTree} {settings : Settings} {width : Nat} {reports : List FileReport}
  {summary : Summary} {path : Path} {text output : Text} {error : Files.AccessError}

/-! ## Storing a text -/

/-- A text that was stored was written after directories had been added. -/
theorem exists_writeBytes_of_store (stored : (store tree path text).2 = .ok ()) :
    ∃ prepared, FileTree.AddsDirectories tree prepared ∧
      prepared.writeBytes path (Text.Utf8.encode text) = .ok (store tree path text).1 := by
  have adds := FileTree.addsDirectories_makeDirectories tree path.parent
  rw [store] at stored ⊢
  rcases made : tree.makeDirectories path.parent with ⟨prepared, error | done⟩
  · rw [made] at stored
    cases stored
  · rw [made] at stored adds
    refine ⟨prepared, adds, ?_⟩
    simp only at stored ⊢
    cases written : prepared.writeBytes path (Text.Utf8.encode text) with
    | error error =>
        rw [written] at stored
        cases stored
    | ok after => rfl

/-- Where a text could not be stored, directories may have been added. -/
theorem addsDirectories_of_store (failed : (store tree path text).2 = .error error) :
    FileTree.AddsDirectories tree (store tree path text).1 := by
  have adds := FileTree.addsDirectories_makeDirectories tree path.parent
  rw [store] at failed ⊢
  rcases made : tree.makeDirectories path.parent with ⟨prepared, error | done⟩
  · rw [made] at adds
    exact adds
  · rw [made] at failed adds
    simp only at failed ⊢
    cases written : prepared.writeBytes path (Text.Utf8.encode text) with
    | error error => exact adds
    | ok after =>
        rw [written] at failed
        cases failed

/-- A text that was stored stands where its path leads, no other file has changed, and if the path
led somewhere before, it was there. -/
theorem exists_location_of_store (stored : (store tree path text).2 = .ok ()) :
    ∃ location, (store tree path text).1.resolve false path = .ok location ∧
      (store tree path text).1.get? location = some (.file (Text.Utf8.encode text)) ∧
      FileTree.KeepsOtherFiles location tree (store tree path text).1 ∧
      ∀ place, tree.resolve false path = .ok place → place = location := by
  obtain ⟨prepared, adds, written⟩ := exists_writeBytes_of_store stored
  obtain ⟨location, below, -, resolved, put, again⟩ := FileTree.exists_put_of_writeBytes written
  refine ⟨location, again, ?_, ?_, fun place led => ?_⟩
  · rw [put, FileTree.get?_put below, if_pos rfl]
  · intro other apart bytes
    rw [put, FileTree.get?_put below, if_neg apart]
    exact adds.keepsFiles other bytes
  · exact (FileTree.resolve_eq_of_addsDirectories adds led resolved).symm

/-! ## Deliveries -/

/-- What a delivery does to the file tree is storing the rendered report. -/
theorem tree_deliver (settings : Settings) (width : Nat) (reports : List FileReport)
    (summary : Summary) (tree : FileTree) :
    (deliver settings width reports summary tree).tree =
      (store tree settings.output (renderAs settings.reporter reports summary)).1 := by
  simp only [deliver]
  split
  case h_1 stored => rw [stored]
  case h_2 stored => rw [stored]

theorem result_deliver (settings : Settings) (width : Nat) (reports : List FileReport)
    (summary : Summary) (tree : FileTree) :
    (deliver settings width reports summary tree).result =
      (store tree settings.output (renderAs settings.reporter reports summary)).2.map
        fun _ => renderAs settings.reporter reports summary := by
  simp only [deliver]
  split
  case h_1 stored => rw [stored]; rfl
  case h_2 stored => rw [stored]; rfl

/-- A report that was delivered is the one in the format of the settings. -/
theorem output_of_deliver
    (written : (deliver settings width reports summary tree).result = .ok output) :
    output = renderAs settings.reporter reports summary := by
  rw [result_deliver] at written
  obtain ⟨done, -, rfl⟩ := exists_of_map_eq_ok written
  rfl

/-- A report was delivered exactly if it was stored. -/
theorem stored_of_deliver
    (written : (deliver settings width reports summary tree).result = .ok output) :
    (store tree settings.output (renderAs settings.reporter reports summary)).2 = .ok () := by
  rw [result_deliver] at written
  obtain ⟨done, stored, -⟩ := exists_of_map_eq_ok written
  exact stored

theorem readBytes_of_deliver
    (written : (deliver settings width reports summary tree).result = .ok output) :
    (deliver settings width reports summary tree).tree.readBytes settings.output =
      .ok (Text.Utf8.encode (renderAs settings.reporter reports summary)) := by
  obtain ⟨prepared, -, put⟩ := exists_writeBytes_of_store (stored_of_deliver written)
  rw [tree_deliver]
  exact FileTree.readBytes_of_writeBytes put

theorem keepsFiles_of_deliver
    (failed : (deliver settings width reports summary tree).result = .error error) :
    FileTree.KeepsFiles tree (deliver settings width reports summary tree).tree := by
  rw [result_deliver] at failed
  rw [tree_deliver]
  exact (addsDirectories_of_store (map_eq_error_iff.mp failed)).keepsFiles

/-- A delivery changes one file and only if it succeeds. Then it gives the report rendered as text, as
JSON or as XML, whichever the settings ask for, and its bytes stand where the path of the report leads; if that path led somewhere before,
it was to the same location; and no other file has changed. If it fails, no file has changed at all.
Neither the result nor the files depend on whether the report is echoed and on the console. -/
theorem one_file_of_deliver (settings : Settings) (width : Nat) (reports : List FileReport)
    (summary : Summary) (tree : FileTree) :
    let output := match settings.reporter with
      | .text => renderText reports
      | .json => renderJson reports (some summary)
      | .xml => renderXml reports (some summary)
    let delivery := deliver settings width reports summary tree
    ((delivery.result = .ok output ∧ ∃ location,
        delivery.tree.resolve false settings.output = .ok location ∧
        delivery.tree.get? location = some (.file (Text.Utf8.encode output)) ∧
        FileTree.KeepsOtherFiles location tree delivery.tree ∧
        ∀ place, tree.resolve false settings.output = .ok place → place = location) ∨
      ∃ error, delivery.result = .error error ∧ FileTree.KeepsFiles tree delivery.tree) ∧
    ∀ verbose other,
      let again := deliver { settings with verbose := verbose } other reports summary tree
      again.result = delivery.result ∧ again.tree = delivery.tree := by
  intro output delivery
  refine ⟨?_, fun verbose other => ⟨?_, ?_⟩⟩
  · cases done : delivery.result with
    | ok text =>
        obtain rfl : text = output := output_of_deliver done
        refine .inl ⟨rfl, ?_⟩
        rw [show delivery.tree = _ from tree_deliver settings width reports summary tree]
        exact exists_location_of_store (stored_of_deliver done)
    | error error => exact .inr ⟨error, rfl, keepsFiles_of_deliver done⟩
  · exact (result_deliver _ other reports summary tree).trans
      (result_deliver settings width reports summary tree).symm
  · exact (tree_deliver _ other reports summary tree).trans
      (tree_deliver settings width reports summary tree).symm

end Report

end DocAudit
