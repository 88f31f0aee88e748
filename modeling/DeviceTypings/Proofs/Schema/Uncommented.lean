import DeviceTypings.Proofs.Render.Uncomment
import DeviceTypings.Proofs.Schema.Undescribed

namespace DeviceTypings

/-!
# Descriptions end up in comments only

The text of a schema without its descriptions is the text of the schema without its
block comments. This needs a class name and a base that are words, and a library whose
name does not end the string that it stands in.
-/

namespace Schema

/-! ## Schemas -/

theorem legible_of_compile {o : Options} {s : Value} {d : Document}
    (hname : Text.isWord o.className.toList = true) (hbase : Text.isWord o.base.toList = true)
    (hlibrary : ∀ c ∈ o.library.toList, c ≠ '"' ∧ c ≠ '\\') (h : compile o s = .ok d) :
    d.Legible := by
  obtain ⟨es, cs, -, hcs, -, rfl⟩ := compile_eq_ok.1 h
  refine ⟨?_, hlibrary, ?_⟩
  · intro name hn
    change name ∈ o.base :: (if o.withConnect then [connectGenerator] else []) at hn
    rcases List.mem_cons.1 hn with rfl | hn
    · exact hbase
    · split at hn
      · obtain rfl := List.mem_singleton.1 hn
        decide
      · simp at hn
  · intro x hx
    simp only [Layout.document, List.mem_append, List.mem_cons, List.mem_map] at hx
    rcases hx with hx | rfl | ⟨i, hi, rfl⟩
    · split at hx
      · obtain rfl := List.mem_singleton.1 hx
        trivial
      · simp at hx
    · refine ⟨hname, hbase, fun n hn => ?_⟩
      have hn' : n ∈ cs.map Chapter.entry := by
        simpa [Layout.addChapters, Options.layout] using hn
      obtain ⟨c, -, rfl⟩ := List.mem_map.1 hn'
      exact c.legible_entry
    · have hi' : i ∈ cs.flatMap Chapter.interfaces := by
        simpa [Layout.addChapters, Options.layout] using hi
      obtain ⟨c, hc, hi⟩ := List.mem_flatMap.1 hi'
      obtain ⟨p, -, hp⟩ := exists_outlines_of_mem hcs hc
      exact hp.legible_interfaces i hi

/-- Leaving the descriptions out of a schema takes the block comments out of its text, and
changes nothing else. -/
theorem generate_undescribed (o : Options) (s : Value)
    (hname : Text.isWord o.className.toList = true) (hbase : Text.isWord o.base.toList = true)
    (hlibrary : ∀ c ∈ o.library.toList, c ≠ '"' ∧ c ≠ '\\') :
    generate o (undescribedSchema s) = (generate o s).map Render.uncomment := by
  rw [generate, generate, compile_undescribed]
  cases h : compile o s with
  | error e => rfl
  | ok d =>
      have hd := legible_of_compile hname hbase hlibrary h
      simp only [Except.map, d.uncomment_render hd]

/-- A command whose descriptions hold a quote and the ends of comments. -/
def describedSchema : Value :=
  .map [
    (.text descriptionKey, .text "A line"),
    (.text "Command", .map [
      (.text "Dial", .map [
        (.text commandKey, .text "True"),
        (.text descriptionKey, .text "Doesn't */ end **/ here"),
        (.text "Number", .map [
          (.text descriptionKey, .text "/* digits"),
          (.text valueSpaceKey, .map [(.text typeKey, .text "String")])])])])]

theorem generate_undescribed_describedSchema :
    ∃ t, generate {} describedSchema = .ok t ∧
      generate {} (undescribedSchema describedSchema) = .ok (Render.uncomment t) :=
  ⟨_, rfl, generate_undescribed {} describedSchema (by decide) (by decide)
    (by simp [defaultLibrary])⟩

/-! ## The key of the value space -/

mutual

/-- A value without the key `description` in all objects that are reached through
elements of arrays and structural keys, where `ValueSpace` is never entered. -/
def deleted : Value → Value
  | .map es => .map (deletedEntries es)
  | .list vs => .list (deletedElements vs)
  | .ring label v => .ring label (deleted v)
  | v => v
termination_by structural v => v

def deletedEntries : List (Value × Value) → List (Value × Value)
  | [] => []
  | (k, v) :: es =>
      if k.isText descriptionKey then deletedEntries es
      else (k, match structuralKey? k with
        | some key => if key = valueSpaceKey then v else deleted v
        | none => v) :: deletedEntries es
termination_by structural es => es

def deletedElements : List Value → List Value
  | [] => []
  | v :: vs => deleted v :: deletedElements vs
termination_by structural vs => vs

end

/-- A command with a parameter named `ValueSpace`. -/
def hiddenSchema : Value :=
  .map [
    (.text "Command", .map [
      (.text "Dial", .map [
        (.text commandKey, .text "True"),
        (.text valueSpaceKey, .map [
          (.text valueSpaceKey, .map [(.text typeKey, .text "String")]),
          (.text descriptionKey, .text "What to dial")])])])]

/-- The description of a parameter named `ValueSpace` is a comment of the text, though no
description is deleted. -/
theorem uncomment_generate_deleted_ne :
    ∃ t, generate {} hiddenSchema = .ok t ∧ generate {} (deleted hiddenSchema) = .ok t ∧
      Render.uncomment t ≠ t := by
  refine ⟨_, rfl, rfl, fun h => ?_⟩
  rw [Render.uncomment, ← Text.toList_inj, Text.toList_ofList,
    Document.toList_render (List.cons_ne_nil _ _)] at h
  revert h
  decide +kernel

/-- A command that is described by a number with too many digits. -/
def numberedSchema : Value :=
  .map [
    (.text "Command", .map [
      (.text "Dial", .map [
        (.text commandKey, .text "True"),
        (.text descriptionKey, .int (.ofNat (Nat.pow 10 Number.maxDigits)))])])]

/-- A description that has no text is a fault, which is gone with the description. -/
theorem isOk_generate_deleted_ne : (generate {} numberedSchema).isOk = false ∧
    (generate {} (deleted numberedSchema)).isOk = true := by
  decide +kernel

end Schema

end DeviceTypings
