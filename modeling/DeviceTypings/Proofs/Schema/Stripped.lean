import DeviceTypings.Proofs.Induction
import DeviceTypings.Proofs.Schema.Positions

namespace DeviceTypings.Schema

/-!
# Schemas without idle attributes

Of the attributes of an object only five are ever read, and three of them are flags
that may be written as text. Here all others are left out of every object that a
schema is read through, the flags become truth values, and of the schema itself only
the families stay. What describes a type is not entered. Such a schema compiles to
the same document, or to the same fault.
-/

def flagKeys : List Text := [commandKey, multilineKey, requiredKey]

def attributeKeys : List Text := flagKeys ++ [descriptionKey, idKey]

def plainFlag (v : Value) : Value :=
  if v.isText "True" then .bool true else if v.isText "False" then .bool false else v

def strippedAttribute (key : Text) (v : Value) : Value := if key ∈ flagKeys then plainFlag v else v

mutual

/-- A value without the attributes that are never read. -/
def stripped : Value → Value
  | .map es => .map (strippedEntries es)
  | .list vs => .list (strippedElements vs)
  | .ring label v => .ring label (stripped v)
  | v => v
termination_by structural v => v

def strippedEntries : List (Value × Value) → List (Value × Value)
  | [] => []
  | (.text key, v) :: es =>
      if isStructural key then
        (.text key, if key = valueSpaceKey then v else stripped v) :: strippedEntries es
      else if key ∈ attributeKeys then
        (.text key, strippedAttribute key v) :: strippedEntries es
      else strippedEntries es
  | _ :: es => strippedEntries es
termination_by structural es => es

def strippedElements : List Value → List Value
  | [] => []
  | v :: vs => stripped v :: strippedElements vs
termination_by structural vs => vs

end

def strippedStructure (p : Text × Value) : Text × Value :=
  (p.1, if p.1 = valueSpaceKey then p.2 else stripped p.2)

/-- The families with their values stripped. Nothing else of a schema is read. -/
def strippedFamilies (es : Entries) : Entries :=
  es.filterMap fun (k, v) => (Family.ofKey? k).map fun _ => (k, stripped v)

def strippedSchema : Value → Value
  | .map es => .map (strippedFamilies es)
  | .ring label v => .ring label (strippedSchema v)
  | v => v

/-! ## Entries -/

/-- Keeps the entries under texts for which `f` has a value. -/
def keepTexts (f : Text → Value → Option Value) (es : Entries) : Entries :=
  es.filterMap fun (k, v) =>
    match k with
    | .text key => (f key v).map (k, ·)
    | _ => none

def strippedValue? (key : Text) (v : Value) : Option Value :=
  if isStructural key then some (if key = valueSpaceKey then v else stripped v)
  else if key ∈ attributeKeys then some (strippedAttribute key v)
  else none

variable {path taken : List Text} {key : Text} {es : Entries} {v : Value}

theorem strippedEntries_eq (es : Entries) : strippedEntries es = keepTexts strippedValue? es := by
  induction es with
  | nil => rfl
  | cons e es ih =>
      obtain ⟨k, v⟩ := e
      cases k with
      | text key =>
          simp only [strippedEntries, keepTexts, List.filterMap_cons, strippedValue?, ih]
          split
          · rfl
          · split <;> rfl
      | _ => exact ih

/-- A key that is kept leads to what is kept of its value. -/
theorem lookup_keepTexts {f : Text → Value → Option Value} {g : Value → Value}
    (h : ∀ v, f key v = some (g v)) (es : Entries) :
    Entries.lookup key (keepTexts f es) = (Entries.lookup key es).map g := by
  induction es with
  | nil => rfl
  | cons e es ih =>
      obtain ⟨k, v⟩ := e
      cases k with
      | text name =>
          simp only [keepTexts, List.filterMap_cons, Entries.lookup_cons]
          by_cases hname : (Value.text name).isText key = true
          · obtain rfl := Value.text.inj (Value.isText_iff.1 hname)
            simp [h, Entries.lookup_cons, hname]
          · rw [if_neg hname, ← ih]
            cases f name v with
            | none => rfl
            | some w =>
                simp only [Option.map_some, Entries.lookup_cons, if_neg hname]
                rfl
      | _ => exact ih

theorem isStructural_of_mem_attributeKeys (h : key ∈ attributeKeys) : isStructural key = false := by
  revert h key
  decide

theorem strippedValue?_attribute (h : key ∈ attributeKeys) (v : Value) :
    strippedValue? key v = some (strippedAttribute key v) := by
  simp [strippedValue?, isStructural_of_mem_attributeKeys h, h]

theorem strippedValue?_structural (h : isStructural key = true) (v : Value) :
    strippedValue? key v = some (if key = valueSpaceKey then v else stripped v) := by
  rw [strippedValue?, if_pos h]

theorem lookup_attribute_stripped (h : key ∈ attributeKeys) (es : Entries) :
    Entries.lookup key (strippedEntries es) =
      (Entries.lookup key es).map (strippedAttribute key) := by
  rw [strippedEntries_eq, lookup_keepTexts (strippedValue?_attribute h)]

theorem lookup_valueSpace_stripped (es : Entries) :
    Entries.lookup valueSpaceKey (strippedEntries es) = Entries.lookup valueSpaceKey es := by
  have hspace : isStructural valueSpaceKey = true := by decide
  rw [strippedEntries_eq, lookup_keepTexts (strippedValue?_structural hspace)]
  simp

/-- An entry that is no structural one goes, or stays one that is not. -/
theorem strippedEntries_cons_none {k : Value} (v : Value) (es : Entries)
    (h : structuralKey? k = none) : strippedEntries ((k, v) :: es) = strippedEntries es ∨
      ∃ w, strippedEntries ((k, v) :: es) = (k, w) :: strippedEntries es := by
  cases k with
  | text key =>
      have hkey : isStructural key = false := by simpa [structuralKey?] using h
      simp only [strippedEntries, hkey, Bool.false_eq_true, if_false]
      split
      · exact .inr ⟨_, rfl⟩
      · exact .inl rfl
  | _ => exact .inl rfl

theorem strippedEntries_cons_some {k : Value} (h : structuralKey? k = some key) :
    strippedEntries ((k, v) :: es) =
      (k, if key = valueSpaceKey then v else stripped v) :: strippedEntries es := by
  obtain ⟨rfl, hkey⟩ := structuralKey?_eq_some.1 h
  rw [strippedEntries, if_pos hkey]

theorem structuralEntries_stripped (es : Entries) :
    structuralEntries (strippedEntries es) = (structuralEntries es).map strippedStructure := by
  induction es with
  | nil => rfl
  | cons e es ih =>
      obtain ⟨k, v⟩ := e
      cases hk : structuralKey? k with
      | none =>
          rw [structuralEntries_cons_none hk, ← ih]
          rcases strippedEntries_cons_none v es hk with h | ⟨w, h⟩
          · rw [h]
          · rw [h, structuralEntries_cons_none hk]
      | some key =>
          rw [strippedEntries_cons_some hk, structuralEntries_cons_some hk,
            structuralEntries_cons_some hk, ih]
          rfl

/-! ## Attributes -/

theorem plainFlag_cases (v : Value) :
    v = .text "True" ∧ plainFlag v = .bool true ∨ v = .text "False" ∧ plainFlag v = .bool false ∨
      plainFlag v = v := by
  unfold plainFlag
  by_cases htrue : v.isText "True" = true
  · exact .inl ⟨Value.isText_iff.1 htrue, if_pos htrue⟩
  · rw [if_neg htrue]
    by_cases hfalse : v.isText "False" = true
    · exact .inr (.inl ⟨Value.isText_iff.1 hfalse, if_pos hfalse⟩)
    · exact .inr (.inr (if_neg hfalse))

theorem isSet_plainFlag (flag : Option Value) : isSet (flag.map plainFlag) = isSet flag := by
  cases flag with
  | none => rfl
  | some v =>
      rw [Option.map_some]
      rcases plainFlag_cases v with ⟨rfl, h⟩ | ⟨rfl, h⟩ | h <;> rw [h] <;> rfl

theorem isUnset_plainFlag (flag : Option Value) : isUnset (flag.map plainFlag) = isUnset flag := by
  cases flag with
  | none => rfl
  | some v =>
      rw [Option.map_some]
      rcases plainFlag_cases v with ⟨rfl, h⟩ | ⟨rfl, h⟩ | h <;> rw [h] <;> rfl

theorem lookup_flag_stripped (h : key ∈ flagKeys) (es : Entries) :
    Entries.lookup key (strippedEntries es) = (Entries.lookup key es).map plainFlag := by
  rw [lookup_attribute_stripped (List.mem_append_left _ h)]
  congr 1
  funext v
  rw [strippedAttribute, if_pos h]

theorem isCommand_stripped (es : Entries) :
    isSet (Entries.lookup commandKey (strippedEntries es)) =
      isSet (Entries.lookup commandKey es) := by
  rw [lookup_flag_stripped (by decide), isSet_plainFlag]

theorem lookup_text_stripped (h : key ∈ attributeKeys) (hflag : key ∉ flagKeys) (es : Entries) :
    Entries.lookup key (strippedEntries es) = Entries.lookup key es := by
  have hid : strippedAttribute key = id := by
    funext v
    rw [strippedAttribute, if_neg hflag, id]
  rw [lookup_attribute_stripped h, hid, Option.map_id, id]

theorem docstring_stripped (es : Entries) : docstring (strippedEntries es) = docstring es := by
  rw [docstring, docstring, lookup_text_stripped (by decide) (by decide)]

theorem leaf_stripped (path : List Text) (key : Text) (es : Entries) (space : Value) :
    leaf path key (strippedEntries es) space = leaf path key es space := by
  rw [leaf, leaf, docstring_stripped, lookup_flag_stripped (by decide), isUnset_plainFlag]

/-! ## Parameters -/

theorem bare_stripped (v : Value) : (stripped v).bare = stripped v.bare := by
  cases v <;> rfl

theorem kind_stripped (v : Value) : (stripped v).kind = v.kind := by
  cases v with
  | ring _ v => exact kind_stripped v
  | _ => rfl
termination_by structural v

theorem misplaced_stripped (path : List Text) (reason : Text → Reason) (v : Value) :
    Fault.misplaced path reason (stripped v) = Fault.misplaced path reason v := by
  cases v with
  | ring label v =>
      have hkind := kind_stripped v
      simp only [stripped, Fault.misplaced, Value.kind, hkind]
  | _ => rfl

theorem describedBy_stripped (v : Value) :
    describedBy (stripped v) = (describedBy v).map stripped := by
  rw [describedBy, describedBy, bare_stripped]
  cases v.bare with
  | list vs => cases vs <;> rfl
  | _ => rfl

theorem parameterAt_stripped (path : List Text) (key : Text) (v : Value) :
    parameterAt path key (stripped v) = parameterAt path key v := by
  rw [parameterAt, parameterAt, bare_stripped]
  cases v.bare with
  | map es =>
      simp only [stripped, lookup_valueSpace_stripped, leaf_stripped]
  | ring label w =>
      have hmisplaced := misplaced_stripped path .notObject (.ring label w)
      simp only [stripped] at hmisplaced ⊢
      rw [hmisplaced]
  | _ => rfl

theorem parameter_stripped (path : List Text) (key : Text) (v : Value) :
    parameter path key (stripped v) = parameter path key v := by
  rw [parameter, parameter, describedBy_stripped]
  cases describedBy v with
  | error reason => rfl
  | ok u => exact parameterAt_stripped path key u

theorem parameters_stripped (path : List Text) (ps : List (Text × Value)) :
    parameters path (ps.map strippedStructure) = parameters path ps := by
  induction ps with
  | nil => rfl
  | cons p ps ih =>
      obtain ⟨key, v⟩ := p
      have hparameter : parameter (path ++ [key]) key (strippedStructure (key, v)).2 =
          parameter (path ++ [key]) key v := by
        by_cases hkey : key = valueSpaceKey
        · rw [strippedStructure, if_pos hkey]
        · rw [strippedStructure, if_neg hkey, parameter_stripped]
      rw [List.map_cons, parameters, ih]
      exact congrArg (· >>= _) hparameter

theorem arguments_stripped (path : List Text) (ps : List (Text × Value)) :
    arguments path (ps.map strippedStructure) = arguments path ps := by
  cases ps with
  | nil => rfl
  | cons p ps =>
      have hparameters := parameters_stripped path (p :: ps)
      simp only [List.map_cons, arguments] at hparameters ⊢
      rw [hparameters]

theorem command_stripped (path : List Text) (key : Text) (es : Entries) :
    command path key (strippedEntries es) = command path key es := by
  rw [command, command, structuralEntries_stripped, arguments_stripped, docstring_stripped,
    lookup_flag_stripped (by decide), isSet_plainFlag]

/-! ## Outlines -/

/-- A value and its stripped form have the same outlines. -/
structure Strips (v : Value) : Prop where
  outline : ∀ path key, outline path key (stripped v) = outline path key v
  element : ∀ path index taken,
    outlineElement path index taken (stripped v) = outlineElement path index taken v

theorem Strips.inside (h : Strips v) (path : List Text) (key : Text) :
    Schema.outline path key (if key = valueSpaceKey then v else stripped v) =
      Schema.outline path key v := by
  split
  · rfl
  · exact h.outline path key

theorem outlineEntries_stripped (hes : ∀ e ∈ es, Strips e.2) (path : List Text) :
    outlineEntries path (strippedEntries es) = outlineEntries path es := by
  induction es with
  | nil => rfl
  | cons e es ih =>
      obtain ⟨k, v⟩ := e
      obtain ⟨hv, hes⟩ := List.forall_mem_cons.1 hes
      cases hk : structuralKey? k with
      | none =>
          rw [outlineEntries_cons_none hk, ← ih hes]
          rcases strippedEntries_cons_none v es hk with h | ⟨w, h⟩
          · rw [h]
          · rw [h, outlineEntries_cons_none hk]
      | some key =>
          rw [strippedEntries_cons_some hk, outlineEntries, outlineEntries]
          simp only [hk, hv.inside, ih hes]

theorem outlineFresh_stripped (hes : ∀ e ∈ es, Strips e.2) (path taken : List Text) :
    outlineFresh path taken (strippedEntries es) = outlineFresh path taken es := by
  induction es generalizing taken with
  | nil => rfl
  | cons e es ih =>
      obtain ⟨k, v⟩ := e
      obtain ⟨hv, hes⟩ := List.forall_mem_cons.1 hes
      cases hk : structuralKey? k with
      | none =>
          -- Only structural keys take names, so what is left out takes none.
          rw [outlineFresh_cons_none hk, ← ih hes]
          rcases strippedEntries_cons_none v es hk with h | ⟨w, h⟩
          · rw [h]
          · rw [h, outlineFresh_cons_none hk]
      | some key =>
          rw [strippedEntries_cons_some hk, outlineFresh, outlineFresh]
          simp only [hk, hv.inside, ih hes]

theorem outlineElements_stripped {vs : List Value} (hvs : ∀ v ∈ vs, Strips v)
    (path : List Text) (index : Nat) (taken : List Text) :
    outlineElements path index taken (strippedElements vs) =
      outlineElements path index taken vs := by
  induction vs generalizing index taken with
  | nil => rfl
  | cons v vs ih =>
      obtain ⟨hv, hvs⟩ := List.forall_mem_cons.1 hvs
      simp only [strippedElements, outlineElements, hv.element, ih hvs]

theorem strips_map (hes : ∀ e ∈ es, Strips e.2) : Strips (.map es) where
  outline := by
    intro path key
    rw [stripped, outline, outline, isCommand_stripped, lookup_valueSpace_stripped,
      command_stripped, outlineEntries_stripped hes]
    simp only [leaf_stripped]
  element := by
    intro path index taken
    rw [stripped, outlineElement, outlineElement, lookup_text_stripped (by decide) (by decide),
      outlineFresh_stripped hes]
    simp only [outlineEntries_stripped hes]

/-- The first element of an array is a leaf before and after. -/
theorem leadingLeaf?_stripped (vs : List Value) : leadingLeaf? (strippedElements vs) =
    (leadingLeaf? vs).map fun (es, space) => (strippedEntries es, space) := by
  cases vs with
  | nil => rfl
  | cons v vs =>
      rw [strippedElements, leadingLeaf?, leadingLeaf?, bare_stripped]
      cases v.bare with
      | map es =>
          simp only [stripped, lookup_valueSpace_stripped, Option.map_map]
          rfl
      | _ => rfl

theorem strips_list {vs : List Value} (hvs : ∀ v ∈ vs, Strips v) : Strips (.list vs) where
  outline := by
    intro path key
    rw [stripped, outline, outline, leadingLeaf?_stripped]
    cases leadingLeaf? vs with
    | none => simp only [Option.map_none, outlineElements_stripped hvs]
    | some leaf => simp only [Option.map_some, leaf_stripped]
  element := fun _ _ _ => rfl

theorem strips (v : Value) : Strips v := by
  induction v using Value.nestedInduction with
  | map es ih => exact strips_map ih
  | list vs ih => exact strips_list ih
  | ring label v ih =>
      constructor
      · intro path key
        rw [stripped, outline, outline, ih.outline]
      · intro path index taken
        rw [stripped, outlineElement, outlineElement, ih.element]
  | scalar v hv =>
      have hstripped : stripped v = v := by
        cases v with
        | list | map | ring => simp [Value.isNested] at hv
        | _ => rfl
      constructor <;> simp [hstripped]

/-! ## Schemas -/

theorem compile_congr {o : Options} {s s' : Value}
    (h : (script o s).effect = (script o s').effect) : compile o s = compile o s' := by
  obtain ⟨hsteps, hresult⟩ := Prod.mk.inj h
  rw [compile_eq, compile_eq, hsteps, hresult]

theorem strippedFamilies_cons_none {k : Value} (h : Family.ofKey? k = none) :
    strippedFamilies ((k, v) :: es) = strippedFamilies es := by
  simp [strippedFamilies, h]

theorem strippedFamilies_cons_some {k : Value} {f : Family} (h : Family.ofKey? k = some f) :
    strippedFamilies ((k, v) :: es) = (k, stripped v) :: strippedFamilies es := by
  simp [strippedFamilies, h]

theorem family_stripped (f : Family) (hasBuiltins : Bool) (es : Entries) :
    family f hasBuiltins (strippedEntries es) = family f hasBuiltins es := by
  rw [family, family, outlineEntries_stripped fun e _ => strips e.2]

theorem families_stripped (hasBuiltins : Bool) (es : Entries) :
    (families hasBuiltins (strippedFamilies es)).effect = (families hasBuiltins es).effect := by
  induction es generalizing hasBuiltins with
  | nil => rfl
  | cons e es ih =>
      obtain ⟨k, v⟩ := e
      cases hk : Family.ofKey? k with
      | none =>
          -- An unknown key is no more than noted.
          rw [strippedFamilies_cons_none hk, ih]
          simp only [families, hk]
          exact (Script.effect_note_bind (.unknownKey k.toText) fun _ => families hasBuiltins es).symm
      | some f =>
          rw [strippedFamilies_cons_some hk]
          simp only [families, hk, bare_stripped]
          cases hv : v.bare with
          | map children =>
              simp only [stripped, family_stripped]
              exact Script.effect_bind_congr _ fun _ => ih _
          | ring label w =>
              have hmisplaced := misplaced_stripped [f.key] .notObject (.ring label w)
              simp only [stripped, misplaced] at hmisplaced ⊢
              rw [hmisplaced]
          | _ => rfl

theorem kind_strippedSchema (s : Value) : (strippedSchema s).kind = s.kind := by
  cases s with
  | ring _ s => exact kind_strippedSchema s
  | _ => rfl
termination_by structural s

theorem script_stripped (o : Options) (s : Value) :
    (script o (strippedSchema s)).effect = (script o s).effect := by
  have hbare : (strippedSchema s).bare = strippedSchema s.bare := by cases s <;> rfl
  rw [script, script, hbare]
  cases s.bare with
  | map es => exact Script.effect_bind_congr _ fun _ => families_stripped false es
  | ring label w =>
      have hkind := kind_strippedSchema (.ring label w)
      simp only [strippedSchema, misplaced, Fault.misplaced] at hkind ⊢
      rw [hkind]
  | _ => rfl

/-- Only the documented attributes of a schema matter, and a flag that is written as text
is the same as a truth value. -/
theorem compile_stripped (o : Options) (s : Value) :
    compile o (strippedSchema s) = compile o s :=
  compile_congr (script_stripped o s)

example : strippedSchema (.map [
    (.text "version", .int 3),
    (.text "Command", .map [
      (.text "role", .text "Admin"),
      (.text "Dial", .map [
        (.text commandKey, .text "True"),
        (.text "access", .text "public"),
        (.text valueSpaceKey, .map [(.text "access", .text "public")])])])]) =
    .map [
      (.text "Command", .map [
        (.text "Dial", .map [
          (.text commandKey, .bool true),
          (.text valueSpaceKey, .map [(.text "access", .text "public")])])])] := by
  rfl

end DeviceTypings.Schema
