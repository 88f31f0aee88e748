import DeviceTypings.Proofs.Document.Layout
import DeviceTypings.Proofs.Render.Reading

namespace DeviceTypings

/-!
# Documents read back

The text of a layout is read block by block, after an import that is known. It tells
whether there are builtins, and all interfaces and members of the main class, up to
what is known of the interfaces of arguments by their names.
-/

variable {r s : List CodePoint}

namespace Render

theorem feed_plainInterface (name : Text) (ns : List Node) :
    feed (interfaceLines name [] ns) = Text.toList "export interface " ++
      (name.toList ++ .char ' ' :: (braces 0 ";" ns ++ [.char '\n'])) := by
  have hheader : (interfaceHeader name []).toList =
      Text.toList "export interface " ++ name.toList := by
    simp [interfaceHeader]
  rw [feed_interface, hheader, List.append_assoc]

theorem interface_append_inj {i j : Interface} (hi : i.Legible) (hj : j.Legible)
    (hi' : i.bases = []) (hj' : j.bases = [])
    (h : feed (interfaceLines i.name i.bases i.children) ++ r =
      feed (interfaceLines j.name j.bases j.children) ++ s) : i.Similar j ∧ r = s := by
  rw [hi', hj', feed_plainInterface, feed_plainInterface] at h
  simp only [List.append_assoc, List.cons_append] at h
  cases hi with
  | mk hname _ hns =>
      cases hj with
      | mk hname' _ hms =>
          obtain ⟨hnames, h⟩ := Text.word_append_inj hname hname' (.cons (by decide) _)
            (.cons (by decide) _) (List.append_cancel_left h)
          obtain ⟨hchildren, h⟩ := braces_append_inj (.inr rfl) (fun n _ => isRead n) hns hms
            (List.cons.inj h).2
          exact ⟨⟨Text.toList_inj.1 hnames, hi'.trans hj'.symm, hchildren⟩,
            (List.cons.inj h).2⟩

theorem exists_toList_builtins :
    ∃ t, builtins.toList =
      Text.toList "export interface " ++ (Text.toList "Gettable" ++ .char '<' :: t) := by
  rw [builtins, unlines, Text.toList_intercalate, List.map_cons, List.map_cons,
    List.intercalate_cons_cons]
  exact ⟨_, rfl⟩

end Render

/-! ## The main class -/

namespace MainClass

variable {m : MainClass} {ns ms : List Node}

theorem exists_feed_blocks (m : MainClass) :
    ∃ t, Render.feed (Render.spaced (Declaration.main m).blocks) =
      Text.toList "export class " ++ t := by
  have happend (a b c d e : Text) : (a ++ b ++ c ++ d ++ e).toList =
      a.toList ++ (b ++ c ++ d ++ e).toList := by simp
  have hclass : (Render.classDeclaration m.name m.base).toList = Text.toList "export class " ++
      (m.name ++ " extends " ++ m.base ++ " \x7b\x7d").toList := happend _ _ _ _ _
  rw [Declaration.blocks, Render.feed_spaced_cons _ (by simp), Render.feed_cons, hclass,
    List.append_assoc, List.append_assoc]
  exact ⟨_, rfl⟩

theorem children_of_feed_eq (hns : ∀ n ∈ ns, n.Legible) (hms : ∀ n ∈ ms, n.Legible)
    (h : Render.feed (Render.spaced (Declaration.main { m with children := ns }).blocks) =
      Render.feed (Render.spaced (Declaration.main { m with children := ms }).blocks)) :
    List.Forall₂ (Node.Alike InterfaceOf.SameName) ns ms := by
  let opening : List (List Text) :=
    [Render.classDeclaration m.name m.base] :: (if m.exports.isEmpty then [] else [m.exports])
  have hblocks (ns : List Node) : (Declaration.main { m with children := ns }).blocks =
      opening ++ [Render.interfaceLines m.name [] ns] := rfl
  rw [hblocks, hblocks, Render.spaced_append (by simp [opening]) (by simp),
    Render.spaced_append (by simp [opening]) (by simp), Render.feed_append, Render.feed_append,
    Render.feed_cons, Render.feed_cons] at h
  simp only [Render.spaced, Render.feed_plainInterface] at h
  have hbraces := List.append_cancel_left (List.append_cancel_left
    (List.cons.inj (List.append_cancel_left (List.append_cancel_left h))).2)
  exact (Render.braces_append_inj (.inr rfl) (fun n _ => Render.isRead n) hns hms
    (List.cons.inj hbraces).2).1

end MainClass

/-! ## Layouts -/

namespace Layout

/-- The blocks after the import and the builtins. -/
def blocksOf (is : List Interface) (m : MainClass) : List (List Text) :=
  is.map (fun i => Render.interfaceLines i.name i.bases i.children) ++
    (Declaration.main m).blocks

theorem blocksOf_ne_nil (is : List Interface) (m : MainClass) : blocksOf is m ≠ [] := by
  simp [blocksOf, Declaration.blocks]

theorem blocks_document (l : Layout) : l.document.blocks =
    [l.imports.render] :: ((if l.hasBuiltins then [[Render.builtins]] else []) ++
      blocksOf l.interfaces l.main) := by
  have hinterfaces (is : List Interface) : (is.map Declaration.interface).flatMap
      Declaration.blocks = is.map fun i => Render.interfaceLines i.name i.bases i.children := by
    rw [List.flatMap_map, List.map_eq_flatMap]
    rfl
  have horder : l.document.printOrder = (if l.hasBuiltins then [.builtins] else []) ++
      (l.interfaces.map .interface ++ [.main l.main]) := by
    cases h : l.hasBuiltins <;>
      simp [document, Document.printOrder, h, Declaration.isMain, List.filter_map,
        Function.comp_def]
  rw [Document.blocks, horder, List.flatMap_append, List.flatMap_append, hinterfaces, blocksOf,
    List.flatMap_singleton]
  cases l.hasBuiltins <;> rfl

/-- What is known of the interfaces of a layout before its text is read. -/
structure Plain (is : List Interface) : Prop where
  legible : ∀ i ∈ is, i.Legible
  bases_eq : ∀ i ∈ is, i.bases = []

variable {is js : List Interface} {m : MainClass} {ns ms : List Node}

theorem blocksOf_nil (m : MainClass) : blocksOf [] m = (Declaration.main m).blocks := rfl

theorem feed_blocksOf_cons (i : Interface) (is : List Interface) (m : MainClass) :
    Render.feed (Render.spaced (blocksOf (i :: is) m)) =
      Render.feed (Render.interfaceLines i.name i.bases i.children) ++
        .char '\n' :: Render.feed (Render.spaced (blocksOf is m)) :=
  Render.feed_spaced_cons _ (blocksOf_ne_nil is m)

/-- The main class is no interface. -/
theorem feed_blocksOf_ne {i : Interface} (hi : i.bases = []) (is : List Interface)
    (m m' : MainClass) : Render.feed (Render.spaced (blocksOf (i :: is) m)) ≠
      Render.feed (Render.spaced (blocksOf [] m')) := by
  obtain ⟨t, ht⟩ := m'.exists_feed_blocks
  rw [feed_blocksOf_cons, hi, Render.feed_plainInterface, blocksOf_nil, ht]
  simp

theorem similar_of_feed_eq (his : Plain is) (hjs : Plain js) (hns : ∀ n ∈ ns, n.Legible)
    (hms : ∀ n ∈ ms, n.Legible)
    (h : Render.feed (Render.spaced (blocksOf is { m with children := ns })) =
      Render.feed (Render.spaced (blocksOf js { m with children := ms }))) :
    List.Forall₂ InterfaceOf.Similar is js ∧
      List.Forall₂ (Node.Alike InterfaceOf.SameName) ns ms := by
  induction is generalizing js with
  | nil =>
      cases js with
      | nil => exact ⟨.nil, MainClass.children_of_feed_eq hns hms h⟩
      | cons j js =>
          exact absurd h.symm (feed_blocksOf_ne (hjs.bases_eq j List.mem_cons_self) _ _ _)
  | cons i is ih =>
      cases js with
      | nil => exact absurd h (feed_blocksOf_ne (his.bases_eq i List.mem_cons_self) _ _ _)
      | cons j js =>
          rw [feed_blocksOf_cons, feed_blocksOf_cons] at h
          obtain ⟨hij, hrest⟩ := Render.interface_append_inj (his.legible i List.mem_cons_self)
            (hjs.legible j List.mem_cons_self) (his.bases_eq i List.mem_cons_self)
            (hjs.bases_eq j List.mem_cons_self) h
          have htail {k : Interface} {ks : List Interface} (hks : Plain (k :: ks)) : Plain ks :=
            ⟨fun i hi => hks.legible i (List.mem_cons_of_mem _ hi),
              fun i hi => hks.bases_eq i (List.mem_cons_of_mem _ hi)⟩
          obtain ⟨hsimilar, halike⟩ := ih (htail his) (htail hjs) (List.cons.inj hrest).2
          exact ⟨.cons hij hsimilar, halike⟩

/-- The builtins are no interface and no main class. -/
theorem feed_builtins_ne (his : Plain is) (m : MainClass) (bs : List (List Text))
    (hbs : bs ≠ []) : Render.feed (Render.spaced ([Render.builtins] :: bs)) ≠
      Render.feed (Render.spaced (blocksOf is m)) := by
  obtain ⟨t, ht⟩ := Render.exists_toList_builtins
  rw [Render.feed_spaced_cons _ hbs, Render.feed_cons, ht]
  simp only [List.append_assoc, List.cons_append]
  intro h
  cases is with
  | nil =>
      obtain ⟨u, hu⟩ := m.exists_feed_blocks
      rw [blocksOf_nil, hu] at h
      simp at h
  | cons i is =>
      rw [feed_blocksOf_cons, his.bases_eq i List.mem_cons_self, Render.feed_plainInterface] at h
      simp only [List.append_assoc, List.cons_append] at h
      cases his.legible i List.mem_cons_self with
      | mk hname _ _ =>
          have hword : Text.isWord (Text.toList "Gettable") = true := by decide
          obtain ⟨-, hrest⟩ := Text.word_append_inj hword hname (.cons (by decide) _)
            (.cons (by decide) _) (List.append_cancel_left h)
          simp at hrest

/-- What the text of a layout tells, if the import and the head of the main class are known. -/
theorem similar_of_render_eq {l l' : Layout} (himports : l.imports = l'.imports)
    (hmain : l'.main = { l.main with children := l'.main.children })
    (hl : Plain l.interfaces) (hl' : Plain l'.interfaces) (hns : ∀ n ∈ l.main.children, n.Legible)
    (hms : ∀ n ∈ l'.main.children, n.Legible) (h : l.document.render = l'.document.render) :
    l.hasBuiltins = l'.hasBuiltins ∧ List.Forall₂ InterfaceOf.Similar l.interfaces l'.interfaces ∧
      List.Forall₂ (Node.Alike InterfaceOf.SameName) l.main.children l'.main.children := by
  have hdeclarations (l : Layout) : l.document.declarations ≠ [] := by simp [document]
  have hblocks (l : Layout) : (if l.hasBuiltins then [[Render.builtins]] else []) ++
      blocksOf l.interfaces l.main ≠ [] := by simp [blocksOf_ne_nil]
  rw [← Text.toList_inj, Document.toList_render (hdeclarations l),
    Document.toList_render (hdeclarations l'), blocks_document, blocks_document, himports,
    Render.feed_spaced_cons _ (hblocks l), Render.feed_spaced_cons _ (hblocks l')] at h
  have htext := (List.cons.inj (List.append_cancel_left h)).2
  cases hb : l.hasBuiltins <;> cases hb' : l'.hasBuiltins <;> rw [hb, hb'] at htext
  · rw [hmain] at htext
    exact ⟨rfl, similar_of_feed_eq hl hl' hns hms htext⟩
  · exact absurd htext.symm (feed_builtins_ne hl _ _ (blocksOf_ne_nil _ _))
  · exact absurd htext (feed_builtins_ne hl' _ _ (blocksOf_ne_nil _ _))
  · have hcons (is : List Interface) (m : MainClass) :=
      Render.feed_spaced_cons [Render.builtins] (blocksOf_ne_nil is m)
    simp only [if_true, List.cons_append, List.nil_append, hcons] at htext
    have hrest := (List.cons.inj (List.append_cancel_left htext)).2
    rw [hmain] at hrest
    exact ⟨rfl, similar_of_feed_eq hl hl' hns hms hrest⟩

end Layout

end DeviceTypings
