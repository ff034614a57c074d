import FleetSelect.Proofs.Document

namespace FleetSelect

open FleetSelect.Json

variable {v : Value} {g : Group} {inv : Inventory}

structure Json.Value.IsGroup (v : Value) : Prop where
  record : v.IsRecord ["name", "hosts", "children"]
  name : ∀ x, v.Gives 0 "name" x → x = .null ∨ ∃ s, x = .ofString s
  hosts : ∀ x, v.Gives 1 "hosts" x → x = .null ∨ ∃ ss, x = .ofStrings ss
  children : ∀ x, v.Gives 2 "children" x → x = .null ∨ ∃ ss, x = .ofStrings ss

structure Json.Value.IsInventory (v : Value) : Prop where
  record : v.IsRecord ["hosts", "groups"]
  hosts : ∀ x, v.Gives 0 "hosts" x → x = .null ∨ ∃ ss, x = .ofStrings ss
  groups : ∀ x, v.Gives 1 "groups" x → x = .null ∨ ∃ vs, x = .array vs ∧ ∀ w ∈ vs, w.IsGroup

structure Group.IsDescribed (g : Group) (v : Value) : Prop where
  record : v.IsRecord ["name", "hosts", "children"]
  name : v.FieldMeans 0 "name" (fun x s => x = .ofString s) "" g.name
  hosts : v.FieldMeans 1 "hosts" (fun x ss => x = .ofStrings ss) [] g.hosts
  children : v.FieldMeans 2 "children" (fun x ss => x = .ofStrings ss) [] g.children

/-- The value gives the inventory its hosts and its groups. -/
structure Inventory.IsDescribed (inv : Inventory) (v : Value) : Prop where
  record : v.IsRecord ["hosts", "groups"]
  hosts : v.FieldMeans 0 "hosts" (fun x ss => x = .ofStrings ss) [] inv.hosts
  groups : v.FieldMeans 1 "groups"
    (fun x gs => ∃ vs, x = .array vs ∧ List.Forall₂ (fun w g => Group.IsDescribed g w) vs gs)
    [] inv.groups

namespace Group

theorem ofJson?_eq_some_iff_of_isRecord (hv : v.IsRecord ["name", "hosts", "children"]) :
    ofJson? v = some g ↔ g.IsDescribed v := by
  obtain ⟨name, hosts, children⟩ := g
  have hname : "name" ∈ ["name", "hosts", "children"] := by simp
  have hhosts : "hosts" ∈ ["name", "hosts", "children"] := by simp
  have hchildren : "children" ∈ ["name", "hosts", "children"] := by simp
  have hread : ofJson? v = some ⟨name, hosts, children⟩ ↔
      Value.optional "" Value.string? (v.given 0 "name") = some name ∧
      Value.optional [] Value.strings? (v.given 1 "hosts") = some hosts ∧
      Value.optional [] Value.strings? (v.given 2 "children") = some children := by
    rw [ofJson?, Value.fields?_of_isRecord hv]
    simp [Option.bind_eq_some_iff]
  rw [hread, Value.optional_string?_eq_some_iff hv hname,
    Value.optional_strings?_eq_some_iff hv hhosts, Value.optional_strings?_eq_some_iff hv hchildren]
  constructor
  · intro h
    obtain ⟨hname, hhosts, hchildren⟩ := h
    exact ⟨hv, hname, hhosts, hchildren⟩
  · intro h
    exact ⟨h.name, h.hosts, h.children⟩

theorem ofJson?_eq_some_iff : ofJson? v = some g ↔ g.IsDescribed v := by
  constructor
  · intro h
    have hv : v.IsRecord ["name", "hosts", "children"] := by
      unfold ofJson? at h
      split at h
      · next hfields => exact Value.isRecord_of_fields?_eq_some hfields
      · cases h
    exact (ofJson?_eq_some_iff_of_isRecord hv).1 h
  · intro h
    exact (ofJson?_eq_some_iff_of_isRecord h.record).2 h

theorem exists_isDescribed_iff : (∃ g : Group, g.IsDescribed v) ↔ v.IsGroup := by
  constructor
  · intro h
    obtain ⟨g, hv, hname, hhosts, hchildren⟩ := h
    exact {
      record := hv
      name := (Value.exists_fieldMeans_iff hv (by simp)).1 ⟨g.name, hname⟩
      hosts := (Value.exists_fieldMeans_iff hv (by simp)).1 ⟨g.hosts, hhosts⟩
      children := (Value.exists_fieldMeans_iff hv (by simp)).1 ⟨g.children, hchildren⟩ }
  · intro h
    obtain ⟨hv, hname, hhosts, hchildren⟩ := h
    obtain ⟨name, hname⟩ := (Value.exists_fieldMeans_iff hv (by simp)).2 hname
    obtain ⟨hosts, hhosts⟩ := (Value.exists_fieldMeans_iff hv (by simp)).2 hhosts
    obtain ⟨children, hchildren⟩ := (Value.exists_fieldMeans_iff hv (by simp)).2 hchildren
    exact ⟨⟨name, hosts, children⟩, hv, hname, hhosts, hchildren⟩

end Group

namespace Inventory

theorem ofJson?_eq_some_iff_of_isRecord (hv : v.IsRecord ["hosts", "groups"]) :
    ofJson? v = some inv ↔ inv.IsDescribed v := by
  obtain ⟨hosts, groups⟩ := inv
  have hhosts : "hosts" ∈ ["hosts", "groups"] := by simp
  have hgroups : "groups" ∈ ["hosts", "groups"] := by simp
  have hread : ofJson? v = some ⟨hosts, groups⟩ ↔
      Value.optional [] Value.strings? (v.given 0 "hosts") = some hosts ∧
      Value.optional [] (Value.list? Group.ofJson?) (v.given 1 "groups") = some groups := by
    rw [ofJson?, Value.fields?_of_isRecord hv]
    simp [Option.bind_eq_some_iff]
  rw [hread, Value.optional_strings?_eq_some_iff hv hhosts,
    Value.optional_list?_eq_some_iff hv hgroups fun _ _ => Group.ofJson?_eq_some_iff]
  constructor
  · intro h
    obtain ⟨hhosts, hgroups⟩ := h
    exact ⟨hv, hhosts, hgroups⟩
  · intro h
    exact ⟨h.hosts, h.groups⟩

theorem ofJson?_eq_some_iff : ofJson? v = some inv ↔ inv.IsDescribed v := by
  constructor
  · intro h
    have hv : v.IsRecord ["hosts", "groups"] := by
      unfold ofJson? at h
      split at h
      · next hfields => exact Value.isRecord_of_fields?_eq_some hfields
      · cases h
    exact (ofJson?_eq_some_iff_of_isRecord hv).1 h
  · intro h
    exact (ofJson?_eq_some_iff_of_isRecord h.record).2 h

theorem exists_isDescribed_iff : (∃ inv : Inventory, inv.IsDescribed v) ↔ v.IsInventory := by
  have hshape (x : Value) : (∃ gs : List Group, ∃ vs, x = .array vs ∧
      List.Forall₂ (fun w g => g.IsDescribed w) vs gs) ↔
        ∃ vs, x = .array vs ∧ ∀ w ∈ vs, w.IsGroup := by
    simp only [Value.exists_array_forall₂_iff, Group.exists_isDescribed_iff]
  constructor
  · intro h
    obtain ⟨inv, hv, hhosts, hgroups⟩ := h
    exact {
      record := hv
      hosts := (Value.exists_fieldMeans_iff hv (by simp)).1 ⟨inv.hosts, hhosts⟩
      groups := fun x hx =>
        have hmeans := (Value.exists_fieldMeans_iff hv (by simp)).1 ⟨inv.groups, hgroups⟩ x hx
        hmeans.imp_right (hshape x).1 }
  · intro h
    obtain ⟨hv, hhosts, hgroups⟩ := h
    have hmeans (x : Value) (hx : v.Gives 1 "groups" x) := (hgroups x hx).imp_right (hshape x).2
    obtain ⟨hosts, hhosts⟩ := (Value.exists_fieldMeans_iff hv (by simp)).2 hhosts
    obtain ⟨groups, hgroups⟩ := (Value.exists_fieldMeans_iff hv (by simp)).2 hmeans
    exact ⟨⟨hosts, groups⟩, hv, hhosts, hgroups⟩

end Inventory

/-- A document is loaded exactly if it has the shape of an inventory. Then it describes the
inventory that is loaded, and no other; otherwise the failure is one of format. -/
theorem loadText_eq_ok_iff_isDescribed (v : Value) :
    (∀ l, tokens? (v.textIn l).toList = some v.tokens) ∧
    ∀ text : String, tokens? text.toList = some v.tokens →
      ((∃ inv, (loadText text).result = .ok inv) ↔ v.IsInventory) ∧
      (∀ inv, (loadText text).result = .ok inv ↔ inv.IsDescribed v) ∧
      (¬ v.IsInventory → ∃ reason, (loadText text).result = .error (.inventoryFormat reason)) := by
  refine ⟨fun l => ?_, fun text htext => ?_⟩
  · rw [Value.textIn, String.toList_ofList]
    exact tokens?_write v l
  have hread : Inventory.ofText? text = Inventory.ofJson? v := by
    rw [Inventory.ofText?, ofText?_eq_some_iff.2 htext, Option.bind_some]
  have hdescribed (inv : Inventory) : (loadText text).result = .ok inv ↔ inv.IsDescribed v := by
    rw [result_loadText, hread, ← Inventory.ofJson?_eq_some_iff]
    cases Inventory.ofJson? v with
    | none => simp
    | some inv' => simp
  have hshape : (∃ inv, (loadText text).result = .ok inv) ↔ v.IsInventory := by
    simp only [hdescribed, Inventory.exists_isDescribed_iff]
  refine ⟨hshape, hdescribed, fun hv => ?_⟩
  cases hresult : Inventory.ofJson? v with
  | none =>
    rw [result_loadText, hread, hresult]
    exact ⟨_, rfl⟩
  | some inv =>
    have hinv : inv.IsDescribed v := Inventory.ofJson?_eq_some_iff.1 hresult
    exact absurd (Inventory.exists_isDescribed_iff.1 ⟨inv, hinv⟩) hv

def looseDocument : Value :=
  .object [
    (some "groups", .array [
      .array [.ofString "web", .ofStrings ["a"]],
      .object [(some "children", .ofStrings ["web"]), (some "name", .ofString "all")]]),
    (some "note", .bool true),
    (some "hosts", .null)]

def looseText : String :=
  "\x7b\"groups\":[[\"web\",[\"a\"]],\x7b\"children\":[\"web\"],\"name\":\"all\"\x7d]," ++
  "\"note\":true,\"hosts\":null\x7d"

theorem loadText_looseText : tokens? looseText.toList = some looseDocument.tokens ∧
    (loadText looseText).result = .ok {
      hosts := []
      groups := [{ name := "web", hosts := ["a"] }, { name := "all", children := ["web"] }] } := by
  have htokens : tokens? looseText.toList = some looseDocument.tokens := rfl
  have hweb : Group.IsDescribed { name := "web", hosts := ["a"] }
      (.array [.ofString "web", .ofStrings ["a"]]) := {
    record := .array (by simp)
    name := .value (.element _ rfl) rfl
    hosts := .value (.element _ rfl) rfl
    children := .empty fun _ h => by cases h with | element _ h => cases h }
  have hall : Group.IsDescribed { name := "all", children := ["web"] }
      (.object [(some "children", .ofStrings ["web"]), (some "name", .ofString "all")]) := {
    record := .object (by simp) (by decide)
    name := .value (.member _ (by simp)) rfl
    hosts := .empty fun _ h => by cases h with | member _ h => simp at h
    children := .value (.member _ (by simp)) rfl }
  refine ⟨htokens, (((loadText_eq_ok_iff_isDescribed looseDocument).2 _ htokens).2.1 _).2 ?_⟩
  exact {
    record := .object (by simp) (by decide)
    hosts := .empty fun _ h => by cases h with | member _ h => simpa using h
    groups := .value (.member _ (by simp)) ⟨_, rfl, .cons hweb (.cons hall .nil)⟩ }

end FleetSelect
