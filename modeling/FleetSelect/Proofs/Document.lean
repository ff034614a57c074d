import FleetSelect.Failure
import FleetSelect.Inventory.Document
import FleetSelect.Proofs.Json.Record
import FleetSelect.Proofs.Json.Writing
import FleetSelect.Report
import FleetSelect.Select

namespace FleetSelect

open FleetSelect.Json

theorem Kind.ofJson?_toJson (k : Kind) : ofJson? k.toJson = some k :=
  ofName?_name k

theorem Operator.ofJson?_toJson (op : Operator) : ofJson? op.toJson = some op :=
  ofName?_name op

theorem Selector.ofJson?_toJson (s : Selector) : ofJson? s.toJson = some s := by
  rw [ofJson?, toJson, Value.fields?_record (by simp)]
  simp [List.lookup_cons, Value.required, Value.string?, Value.ofString, Kind.ofJson?_toJson,
    Operator.ofJson?_toJson]

theorem Limit.ofJson?_toJson (l : Limit) : ofJson? l.toJson = some l := by
  rw [ofJson?, toJson, Value.fields?_record (by simp [fieldNames])]
  simp [fieldNames, List.lookup_cons, Value.required, Value.list?_array_map Selector.ofJson?_toJson]

theorem Report.fields?_toJson (r : Report) :
    r.toJson.fields? ["pattern", "matched", "parsed"] =
      some [some (.ofString r.pattern), some (.ofStrings r.matched), r.limit.map Limit.toJson] := by
  obtain ⟨pattern, matched, limit⟩ := r
  cases limit
  all_goals rw [toJson, Value.fields?_record (by simp)]
  all_goals simp [List.lookup_cons]

theorem Report.ofJson?_toJson (r : Report) : ofJson? r.toJson = some r := by
  have hlimit : Value.optional none (fun v => (Limit.ofJson? v).map some)
      (r.limit.map Limit.toJson) = some r.limit := by
    cases r.limit with
    | none => rfl
    | some l =>
      change (Limit.ofJson? l.toJson).map some = some (some l)
      rw [Limit.ofJson?_toJson, Option.map_some]
  rw [ofJson?, Report.fields?_toJson]
  simp [Value.required, Value.string?, Value.ofString, Value.strings?_ofStrings, hlimit]

def listField? (ss : List String) : Option Value :=
  if ss.isEmpty then none else some (.ofStrings ss)

theorem optional_listField? (ss : List String) :
    Value.optional [] Value.strings? (listField? ss) = some ss := by
  cases ss with
  | nil => rfl
  | cons s ss => exact Value.strings?_ofStrings (s :: ss)

theorem Group.fields?_toJson (g : Group) : g.toJson.fields? ["name", "hosts", "children"] =
    some [some (.ofString g.name), listField? g.hosts, listField? g.children] := by
  rw [toJson, listField?, listField?]
  -- the names are distinct whichever of the two lists is left out
  cases g.hosts.isEmpty
  all_goals cases g.children.isEmpty
  all_goals rw [Value.fields?_record (by simp)]
  all_goals simp [List.lookup_cons]

theorem Group.ofJson?_toJson (g : Group) : ofJson? g.toJson = some g := by
  have hname : Value.optional "" Value.string? (some (.ofString g.name)) = some g.name := rfl
  rw [ofJson?, Group.fields?_toJson]
  simp [hname, optional_listField?]

theorem Inventory.ofJson?_toJson (inv : Inventory) : ofJson? inv.toJson = some inv := by
  have hgroups : Value.optional [] (Value.list? Group.ofJson?)
      (some (.array (inv.groups.map Group.toJson))) = some inv.groups :=
    Value.list?_array_map Group.ofJson?_toJson inv.groups
  have hhosts : Value.optional [] Value.strings? (some (.ofStrings inv.hosts)) = some inv.hosts :=
    Value.strings?_ofStrings inv.hosts
  rw [ofJson?, toJson, Value.fields?_record (by simp)]
  simp [List.lookup_cons, hgroups, hhosts]

theorem Failure.ofJson?_toJson (f : Failure) : ofJson? f.toJson = some f := by
  cases f with
  | emptyPattern => rfl
  | regexCompile expression reason =>
    let details := Value.record [("pattern", .ofString expression), ("reason", .ofString reason)]
    have hfields : details.fields? ["pattern", "reason"] =
        some [some (.ofString expression), some (.ofString reason)] := by
      rw [Value.fields?_record (by simp)]
      simp [List.lookup_cons]
    have hmember : ofJson? (toJson (.regexCompile expression reason)) =
        ofMember? "RegexCompile" details := rfl
    rw [hmember, ofMember?, hfields]
    rfl
  | inventoryRead reason => rfl
  | inventoryFormat reason => rfl
  | invalidConfig reason => rfl
  | reportRender reason => rfl

theorem bind_ofText?_textIn {α : Type} {read : Value → Option α} {write : α → Value}
    (h : ∀ a, read (write a) = some a) (a : α) (l : Layout) :
    (Value.ofText? ((write a).textIn l)).bind read = some a := by
  rw [ofText?_textIn, Option.bind_some, h]

theorem Inventory.ofText?_textIn (inv : Inventory) (l : Layout) :
    ofText? (inv.toJson.textIn l) = some inv :=
  bind_ofText?_textIn ofJson?_toJson inv l

theorem result_loadText (text : String) : (loadText text).result =
    match Inventory.ofText? text with
    | some inv => .ok inv
    | none => .error (.inventoryFormat "the text does not describe an inventory") := by
  unfold loadText
  cases Inventory.ofText? text with
  | none => rfl
  | some inv => rfl

theorem Report.exists_render_eq_textIn (r : Report) (pretty : Bool) :
    ∃ l, r.render pretty = r.toJson.textIn l := by
  cases pretty with
  | true => exact ⟨.indented 0, rfl⟩
  | false => exact ⟨.compact, rfl⟩

/-- Selectors, limits, reports, groups, inventories and failures are read back as they were written,
in every layout. This holds of a whole inventory that is loaded and of both forms of a report. -/
theorem documents_read_back :
    (∀ (l : Layout) (s : Selector),
      (Value.ofText? (s.toJson.textIn l)).bind Selector.ofJson? = some s) ∧
    (∀ (l : Layout) (m : Limit),
      (Value.ofText? (m.toJson.textIn l)).bind Limit.ofJson? = some m) ∧
    (∀ (l : Layout) (r : Report),
      (Value.ofText? (r.toJson.textIn l)).bind Report.ofJson? = some r) ∧
    (∀ (l : Layout) (g : Group),
      (Value.ofText? (g.toJson.textIn l)).bind Group.ofJson? = some g) ∧
    (∀ (l : Layout) (inv : Inventory), (loadText (inv.toJson.textIn l)).result = .ok inv) ∧
    (∀ (l : Layout) (f : Failure),
      (Value.ofText? (f.toJson.textIn l)).bind Failure.ofJson? = some f) ∧
    ∀ (r : Report) (pretty : Bool),
      (Value.ofText? (r.render pretty)).bind Report.ofJson? = some r := by
  refine ⟨fun l s => ?_, fun l m => ?_, fun l r => ?_, fun l g => ?_, fun l inv => ?_,
    fun l f => ?_, fun r pretty => ?_⟩
  · exact bind_ofText?_textIn Selector.ofJson?_toJson s l
  · exact bind_ofText?_textIn Limit.ofJson?_toJson m l
  · exact bind_ofText?_textIn Report.ofJson?_toJson r l
  · exact bind_ofText?_textIn Group.ofJson?_toJson g l
  · rw [result_loadText, Inventory.ofText?_textIn]
  · exact bind_ofText?_textIn Failure.ofJson?_toJson f l
  · obtain ⟨l, hl⟩ := r.exists_render_eq_textIn pretty
    rw [hl]
    exact bind_ofText?_textIn Report.ofJson?_toJson r l

end FleetSelect
