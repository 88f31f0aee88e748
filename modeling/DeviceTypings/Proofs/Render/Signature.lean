import DeviceTypings.Proofs.Document.Reading
import DeviceTypings.Proofs.Render.Blocks

namespace DeviceTypings

/-!
# Declaration lines

The lines of every interface stand in the text of its document. Among those of an interface
are the declarations of all commands below it, in their order, each with the margin and the
separator of its depth. A parameter list has at most two places, and the first of them may be
left out only if it is the last.
-/

/-- The lines stand in the text, one right after the other. -/
def HasLines (text : Text) (ls : List Text) : Prop :=
  (.char '\n' :: Render.feed ls) <:+: text.toList

/-! ## Interfaces in a document -/

namespace Render

theorem prefix_feed_spaced (b : List Text) (bs : List (List Text)) :
    feed b <+: feed (spaced (b :: bs)) := by
  cases bs with
  | nil => exact List.prefix_refl _
  | cons c bs =>
      rw [feed_spaced_cons b (by simp)]
      exact List.prefix_append _ _

/-- A block that is not the first comes after a line feed. -/
theorem infix_feed_spaced {a b : List Text} {bs : List (List Text)} (h : b ∈ bs) :
    (.char '\n' :: feed b) <:+: feed (spaced (a :: bs)) := by
  obtain ⟨before, after, rfl⟩ := List.append_of_mem h
  have hspaced : feed (spaced (a :: (before ++ b :: after))) =
      feed (spaced (a :: before)) ++ .char '\n' :: feed (spaced (b :: after)) :=
    feed_spaced_append (List.cons_ne_nil a before) (List.cons_ne_nil b after)
  obtain ⟨r, hr⟩ := prefix_feed_spaced b after
  exact ⟨feed (spaced (a :: before)), r, by simp [hspaced, ← hr]⟩

end Render

theorem Layout.hasLines_interface {l : Layout} {i : Interface} (hi : i ∈ l.interfaces) :
    HasLines l.document.render (Render.interfaceLines i.name i.bases i.children) := by
  have hdeclarations : l.document.declarations ≠ [] := by simp [document]
  rw [HasLines, Document.toList_render hdeclarations, blocks_document]
  exact Render.infix_feed_spaced
    (List.mem_append_right _ (List.mem_append_left _ (List.mem_map_of_mem hi)))

/-! ## Commands and their places -/

namespace Node

open Render (margin separatorAt)

mutual

/-- The commands of a member and of all the members below it, each with the names that lead to
the body that it stands in. -/
def located (above : List Text) : Node → List (List Text × Command)
  | member _ => []
  | command c => [(above, c)]
  | tree _ name children => locatedIn (above ++ [name]) children
termination_by structural n => n

def locatedIn (above : List Text) : List Node → List (List Text × Command)
  | [] => []
  | n :: ns => located above n ++ locatedIn above ns
termination_by structural ns => ns

end

/-- The line that declares a command, at the depth of its place. -/
def declarationLine (x : List Text × Command) : Text :=
  margin x.1.length ++ (x.2.signature ++ separatorAt x.1.length)

@[simp] theorem locatedIn_nil (above : List Text) : locatedIn above [] = [] := rfl

theorem locatedIn_cons (above : List Text) (n : Node) (ns : List Node) :
    locatedIn above (n :: ns) = n.located above ++ locatedIn above ns := rfl

@[simp] theorem locatedIn_append (above : List Text) (ns ms : List Node) :
    locatedIn above (ns ++ ms) = locatedIn above ns ++ locatedIn above ms := by
  induction ns with
  | nil => rfl
  | cons n ns ih => rw [List.cons_append, locatedIn_cons, locatedIn_cons, ih, List.append_assoc]

/-- No command is left out. -/
theorem map_snd_locatedIn (above : List Text) (ns : List Node) :
    (locatedIn above ns).map Prod.snd = commandsIn ns := by
  have hnode (n : Node) : ∀ above, (n.located above).map Prod.snd = n.commands := by
    induction n using treeInduction with
    | member m => exact fun _ => rfl
    | command c => exact fun _ => rfl
    | tree kind name ns ih =>
        intro above
        rw [located, commands]
        induction ns with
        | nil => rfl
        | cons n ns ihs =>
            obtain ⟨hn, hns⟩ := List.forall_mem_cons.1 ih
            rw [locatedIn_cons, List.map_append, hn, ihs hns, commandsIn]
  induction ns with
  | nil => rfl
  | cons n ns ih => rw [locatedIn_cons, List.map_append, hnode, ih, commandsIn]

/-- The declarations of commands are among the lines of each member. -/
def HasDeclarations (n : Node) : Prop :=
  ∀ above : List Text, above ≠ [] → ((n.located above).map declarationLine).Sublist
    (Render.indent above.length (Render.closeWith (separatorAt above.length) (Render.nodeLines n)))

theorem sublist_bodyLines {ns : List Node} (h : ∀ n ∈ ns, n.HasDeclarations)
    (above : List Text) (habove : above ≠ []) :
    ((locatedIn above ns).map declarationLine).Sublist
      (Render.indent above.length (Render.bodyLines (separatorAt above.length) ns)) := by
  induction ns with
  | nil => exact List.nil_sublist _
  | cons n ns ih =>
      obtain ⟨hn, hns⟩ := List.forall_mem_cons.1 h
      rw [locatedIn_cons, List.map_append, Render.bodyLines, Render.indent_append]
      exact (hn above habove).append (ih hns)

theorem hasDeclarations_command (c : Command) : (command c).HasDeclarations := by
  intro above _
  have hne : c.signature ++ separatorAt above.length ≠ "" := by
    rw [ne_eq, ← Text.toList_inj, Text.toList_append, Render.toList_command]
    simp
  have hline : Render.indent above.length [c.signature ++ separatorAt above.length] =
      [declarationLine (above, c)] := congrArg ([·]) (if_neg hne)
  rw [located, Render.nodeLines, CommandOf.lines, Render.closeWith_append _ _ (by simp),
    Render.indent_append, Render.closeWith_singleton, hline]
  exact List.sublist_append_right _ _

theorem hasDeclarations_tree {kind : TreeKind} {name : Text} {ns : List Node}
    (h : ∀ n ∈ ns, n.HasDeclarations) : (tree kind name ns).HasDeclarations := by
  intro above habove
  have hdepth : 0 < above.length := List.length_pos_iff.2 habove
  have hlength : (above ++ [name]).length = above.length + 1 := by simp
  -- Only the members of an interface itself end with a semicolon.
  have hdeeper : separatorAt (above.length + 1) = "," := by
    rw [separatorAt, if_neg (by omega)]
  cases ns with
  | nil => exact List.nil_sublist _
  | cons n ns =>
      have hbody := sublist_bodyLines h (above ++ [name]) (by simp)
      rw [hlength, hdeeper] at hbody
      rw [located, Render.nodeLines, Render.indent_block]
      exact (hbody.trans (List.sublist_append_left _ _)).trans (List.sublist_append_right _ _)

theorem hasDeclarations (n : Node) : n.HasDeclarations := by
  induction n using treeInduction with
  | member m => exact fun _ _ => List.nil_sublist _
  | command c => exact hasDeclarations_command c
  | tree kind name ns ih => exact hasDeclarations_tree ih

/-- The lines of an interface declare the commands below it, in their order. -/
theorem sublist_interfaceLines (key name : Text) (bases : List Text) (ns : List Node) :
    ((locatedIn [key] ns).map declarationLine).Sublist (Render.interfaceLines name bases ns) := by
  cases ns with
  | nil => exact List.nil_sublist _
  | cons n ns =>
      have hall : ∀ m ∈ n :: ns, m.HasDeclarations := fun m _ => m.hasDeclarations
      have hbody := sublist_bodyLines hall [key] (List.cons_ne_nil key [])
      exact (hbody.trans (List.sublist_append_left _ _)).cons _

end Node

/-! ## Interfaces of arguments -/

namespace Member

/-- The lines of a member in an interface. -/
def block (m : Member) : List Text :=
  Render.indent 1 (Render.comment m.docstring) ++ [Render.margin 1 ++ (m.signature ++ ";")]

end Member

theorem Render.interfaceLines_members (name : Text) {ms : List Member} (h : ms ≠ []) :
    interfaceLines name [] (ms.map Node.member) =
      ("export interface " ++ name ++ " \x7b" : Text) ::
        (ms.flatMap Member.block ++ [("\x7d" : Text)]) := by
  have hmember (m : Member) :
      indent 1 (closeWith ";" (nodeLines (.member m))) = m.block := by
    have hne : m.signature ++ ";" ≠ "" := by simp
    rw [nodeLines, Member.lines, closeWith_append _ _ (by simp), indent_append, closeWith_singleton,
      Member.block]
    exact congrArg (_ ++ [·]) (if_neg hne)
  have hbody : indent 1 (bodyLines ";" (ms.map Node.member)) = ms.flatMap Member.block := by
    rw [bodyLines_eq_flatMap, indent, List.map_flatMap, List.flatMap_map]
    exact List.flatMap_congr fun m _ => hmember m
  have hlines : interfaceLines name [] (ms.map Node.member) =
      Render.block (interfaceHeader name []) (bodyLines ";" (ms.map Node.member)) := by
    obtain ⟨m, ms, rfl⟩ := List.exists_cons_of_ne_nil h
    rfl
  rw [hlines, Render.block, hbody]
  rfl

/-! ## Parameters -/

/-- Whether a caller may leave out what stands in a place of a parameter list. -/
def Render.Piece.isOptional : Piece → Bool
  | text _ => false
  | typed v => v.optional

namespace CommandOf

open Render (Piece joinPieces)

variable {c : Command}

theorem joinPieces_none (h : c.args = none) :
    joinPieces c.parameters = if c.multiline then "body: string" else "" := by
  rw [← Text.toList_inj, toList_parameters_none h]
  cases c.multiline <;> rfl

theorem joinPieces_some {i : Interface} (h : c.args = some i) :
    joinPieces c.parameters = (if c.argsOptional then "args?: " else "args: ") ++
      (i.name ++ if c.multiline then ", body: string" else "") := by
  rw [← Text.toList_inj, toList_parameters_some h]
  cases c.argsOptional <;> cases c.multiline <;> simp

theorem argsOptional_of_mem {a : Piece} (ha : a ∈ c.parameters) (h : a.isOptional = true) :
    c.argsOptional = true := by
  rcases List.mem_append.1 ha with ha | ha
  · cases hargs : c.args with
    | none => simp [hargs] at ha
    | some i =>
        simp only [hargs, List.mem_singleton] at ha
        subst ha
        exact h
  · split at ha
    · obtain rfl := List.mem_singleton.1 ha
      simp [Piece.isOptional] at h
    · simp at ha

/-- No parameter that may be left out comes before one that may not. -/
theorem pairwise_parameters (c : Command) :
    c.parameters.Pairwise fun a b => a.isOptional = true → b.isOptional = true := by
  rw [parameters]
  cases hargs : c.args with
  | none => cases c.multiline <;> simp
  | some i =>
      cases hmultiline : c.multiline with
      | false => simp
      | true => simp [Piece.isOptional, argsOptional, hargs, hmultiline]

end CommandOf

end DeviceTypings
