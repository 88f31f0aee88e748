import DeviceTypings.Proofs.Workbench.Draft
import DeviceTypings.Workbench.Equal
import Mathlib.Data.List.Perm.Basic

namespace DeviceTypings.Workbench

/-!
# Interleaved orders

Interfaces are declared in an order, and each node gets its children in an
order. When in between the main class and the builtins are added, and which
node gets its children first, is of no account for the text of the document.
Each part of a draft is made up of orders of one line only, or is read without
regard to order.
-/

inductive Line
  | interfaces
  | main
  | builtins
  | node (label : Nat)
  | members (container : Handle)
deriving DecidableEq

def Order.line : Order → Line
  | addInterface .. => .interfaces
  | addMain .. => .main
  | addBuiltins => .builtins
  | make label _ => .node label
  | extend _ container _ => .members container

/-- The same orders, where only orders of different lines may change places. -/
def Interleaved (os os' : List Order) : Prop :=
  ∀ l, os.filter (·.line = l) = os'.filter (·.line = l)

variable {os os' : List Order}

namespace Interleaved

open Classical in
theorem perm (h : Interleaved os os') : os.Perm os' := by
  rw [List.perm_iff_count]
  intro o
  have hcount (ps : List Order) : (ps.filter (·.line = o.line)).count o = ps.count o :=
    List.count_filter (by simp)
  rw [← hcount os, h o.line, hcount os']

/-- What only the orders of one line contribute to is the same for both. -/
theorem flatMap_eq {α : Type} {f : Order → List α} (h : Interleaved os os') (l : Line)
    (hf : ∀ o : Order, o.line ≠ l → f o = []) : os.flatMap f = os'.flatMap f := by
  have hline (ps : List Order) : (ps.filter (·.line = l)).flatMap f = ps.flatMap f := by
    induction ps with
    | nil => rfl
    | cons p ps ih =>
        by_cases hp : p.line = l
        · rw [List.filter_cons_of_pos (by simpa using hp), List.flatMap_cons, ih,
            List.flatMap_cons]
        · rw [List.filter_cons_of_neg (by simpa using hp), ih, List.flatMap_cons, hf p hp,
            List.nil_append]
  rw [← hline os, h l, hline os']

theorem length_opened (h : Interleaved os os') :
    (Draft.of os).opened.length = (Draft.of os').opened.length :=
  (h.perm.flatMap_right _).length_eq

theorem mem_opened (h : Interleaved os os') {x : Handle} {shape : Shape Handle} :
    (x, shape) ∈ (Draft.of os).opened ↔ (x, shape) ∈ (Draft.of os').opened :=
  (h.perm.flatMap_right _).mem_iff

theorem added_eq (h : Interleaved os os') : (Draft.of os).added = (Draft.of os').added := by
  funext x
  apply h.flatMap_eq (.members x)
  intro o ho
  cases o with
  | extend operation container children =>
      have hne : container ≠ x := by
        rintro rfl
        exact ho rfl
      exact if_neg hne
  | _ => rfl

theorem first_eq (h : Interleaved os os') : (Draft.of os).first = (Draft.of os').first := by
  apply h.flatMap_eq .builtins
  intro o ho
  cases o with
  | addBuiltins => exact absurd rfl ho
  | _ => rfl

theorem imported_eq (h : Interleaved os os') :
    (Draft.of os).imported = (Draft.of os').imported := by
  apply h.flatMap_eq .main
  intro o ho
  cases o with
  | addMain => exact absurd rfl ho
  | _ => rfl

/-- The interfaces are declared in the same order. -/
theorem others_eq (h : Interleaved os os') :
    (Draft.of os).last.filter (· ≠ .main) = (Draft.of os').last.filter (· ≠ .main) := by
  simp only [Draft.of, List.filter_flatMap]
  apply h.flatMap_eq .interfaces
  intro o ho
  cases o with
  | addInterface => exact absurd rfl ho
  | _ => rfl

theorem mains_eq (h : Interleaved os os') :
    (Draft.of os).last.filter (· = .main) = (Draft.of os').last.filter (· = .main) := by
  simp only [Draft.of, List.filter_flatMap]
  apply h.flatMap_eq .main
  intro o ho
  cases o with
  | addMain => exact absurd rfl ho
  | _ => rfl

theorem filter_tops_eq (h : Interleaved os os') :
    (Draft.of os).tops.filter (· ≠ .main) = (Draft.of os').tops.filter (· ≠ .main) ∧
      (Draft.of os).tops.filter (· = .main) = (Draft.of os').tops.filter (· = .main) := by
  simp only [Draft.tops, List.filter_append, h.first_eq, h.others_eq, h.mains_eq, and_self]

end Interleaved

/-! ## The top level -/

theorem Order.isMain_of_mem_opened {o : Order} {x : Handle} {shape : Shape Handle}
    (h : (x, shape) ∈ o.opened) (hx : ∀ label, x ≠ .made label) :
    shape.isMain = decide (x = .main) := by
  cases o with
  | addInterface | addMain =>
      obtain ⟨rfl, rfl⟩ := Prod.mk.inj (List.mem_singleton.1 h)
      rfl
  | addBuiltins =>
      rcases List.mem_append.1 h with h | h
      · obtain ⟨name, -, heq⟩ := List.mem_map.1 h
        obtain ⟨rfl, rfl⟩ := Prod.mk.inj heq
        rfl
      · obtain ⟨rfl, rfl⟩ := Prod.mk.inj (List.mem_singleton.1 h)
        rfl
  | make label s =>
      obtain ⟨rfl, rfl⟩ := Prod.mk.inj (List.mem_singleton.1 h)
      exact absurd rfl (hx label)
  | extend => cases h

theorem Draft.ne_made_of_mem_tops {x : Handle} (h : x ∈ (of os).tops) (label : Nat) :
    x ≠ .made label := by
  rintro rfl
  rw [tops, List.mem_append, List.mem_reverse, of, List.mem_flatMap, List.mem_flatMap] at h
  rcases h with ⟨o, -, ho⟩ | ⟨o, -, ho⟩
  · cases o <;> simp [Order.first] at ho
  · cases o <;> simp [Order.last] at ho

theorem Sketch.isMain_of (shape : Shape Sketch) : (Sketch.of shape).isMain = shape.isMain := by
  cases shape <;> rfl

namespace Session

variable {s s' : Session} {library : Text} {x : Handle}

theorem Nodes.exists_mem (h : s.Nodes (.of os)) (hx : s.knows x = true) :
    ∃ shape, (x, shape) ∈ (Draft.of os).opened := by
  obtain ⟨⟨y, shape⟩, hm, rfl⟩ := List.mem_map.1 ((h.knows_iff x).1 hx)
  exact ⟨shape, hm⟩

theorem Realizes.isMain_unfold (h : s.Realizes library (.of os)) (hx : x ∈ (Draft.of os).tops)
    (fuel : Nat) :
    (s.bench.unfold (fuel + 1) (s.place x)).isMain = decide (x = .main) := by
  obtain ⟨shape, hm⟩ := h.nodes.exists_mem (h.top.known x hx)
  obtain ⟨o, -, ho⟩ := List.mem_flatMap.1 hm
  rw [unfold, h.nodes.shape_eq x shape hm, Sketch.isMain_of, Shape.isMain_mapParts,
    Shape.isMain_mapParts, Shape.isMain_extended]
  exact Order.isMain_of_mem_opened ho (Draft.ne_made_of_mem_tops hx)

/-- The children of the document as they print. -/
def topSketches (s : Session) (d : Draft) : List Sketch :=
  d.tops.map fun x => s.bench.unfold (d.opened.length + 1) (s.place x)

theorem Realizes.filter_topSketches (h : s.Realizes library (.of os)) (main : Bool) :
    (s.topSketches (.of os)).filter (·.isMain == main) =
      ((Draft.of os).tops.filter fun x => decide (x = .main) == main).map fun x =>
        s.bench.unfold ((Draft.of os).opened.length + 1) (s.place x) := by
  rw [topSketches, List.filter_map]
  congr 1
  apply List.filter_congr
  intro x hx
  rw [Function.comp_apply, h.isMain_unfold hx]

theorem Realizes.sketch_root (h : s.Realizes library (.of os)) :
    s.bench.sketch rootId = .of (.document library
      (.of (.imports ((Draft.of os).importStatement library)) :: s.topSketches (.of os))) := by
  rw [sketch, h.nodes.size, unfold, h.top.root, Shape.mapParts, List.map_cons, List.map_map,
    unfold, h.top.imports]
  rfl

/-! ## Texts -/

variable (hi : Interleaved os os') (h : s.Realizes library (.of os))
  (h' : s'.Realizes library (.of os'))

include hi h h'

/-- A node has the same tree below it on both sides. -/
theorem unfold_eq (fuel : Nat) (hx : s.knows x = true) :
    s.bench.unfold fuel (s.place x) = s'.bench.unfold fuel (s'.place x) := by
  induction fuel generalizing x with
  | zero => rfl
  | succ fuel ih =>
      obtain ⟨shape, hm⟩ := h.nodes.exists_mem hx
      have hparts := h.nodes.parts_known x shape hm
      rw [unfold, unfold, h.nodes.shape_eq x shape hm,
        h'.nodes.shape_eq x shape (hi.mem_opened.1 hm), ← hi.added_eq, Shape.mapParts_mapParts,
        Shape.mapParts_mapParts]
      exact congrArg _ (Shape.mapParts_congr fun p hp => ih (hparts p hp))

theorem filter_topSketches_eq (main : Bool) :
    (s.topSketches (.of os)).filter (·.isMain == main) =
      (s'.topSketches (.of os')).filter (·.isMain == main) := by
  have htops : ((Draft.of os).tops.filter fun x => decide (x = .main) == main) =
      (Draft.of os').tops.filter fun x => decide (x = .main) == main := by
    obtain ⟨hothers, hmains⟩ := hi.filter_tops_eq
    cases main with
    | true => simpa using hmains
    | false => simpa using hothers
  rw [h.filter_topSketches, h'.filter_topSketches, ← htops, ← hi.length_opened]
  apply List.map_congr_left
  intro x hx
  exact unfold_eq hi h h' _ (h.top.known x (List.mem_filter.1 hx).1)

theorem text_eq : s.bench.text = s'.bench.text := by
  have hothers := filter_topSketches_eq hi h h' false
  have hmains := filter_topSketches_eq hi h h' true
  have himports : (Draft.of os).importStatement library =
      (Draft.of os').importStatement library := by
    rw [Draft.importStatement, Draft.importStatement, hi.imported_eq]
  simp only [beq_false, beq_true] at hothers hmains
  rw [text, text, h.sketch_root, h'.sketch_root, himports, Sketch.print, Sketch.print]
  simp only [Sketch.shape, Sketch.document, hothers, hmains]

end Session

/-- Two runs of the same orders end in the same text, wherever the main class and the builtins
come in, though the documents may differ. -/
theorem text_of_interleaved :
    (∀ (library : Text) (os os' : List Order) (s s' : Session), Interleaved os os' →
      (Session.start library).run os = some s → (Session.start library).run os' = some s' →
        s.bench.text = s'.bench.text) ∧
    ∃ (library : Text) (os os' : List Order) (s s' : Session), Interleaved os os' ∧
      (Session.start library).run os = some s ∧ (Session.start library).run os' = some s' ∧
        (s.bench.sketch rootId).same (s'.bench.sketch rootId) = false := by
  constructor
  · intro library os os' s s' hi hs hs'
    exact Session.text_eq hi (Session.run_realizes hs) (Session.run_realizes hs')
  · refine ⟨"jsxapi", [.addMain "TypedXAPI" "XAPI" true, .addInterface "StatusTree" []],
      [.addInterface "StatusTree" [], .addMain "TypedXAPI" "XAPI" true], _, _, ?_, rfl, rfl, rfl⟩
    intro l
    cases l <;> rfl

def mainFirst : List Order :=
  [.addMain "TypedXAPI" "XAPI" true, .addInterface "StatusTree" [], .make 0 (.plain "number"),
    .make 1 (.member "Volume" (.made 0) true none),
    .extend "add_child" (.interface "StatusTree") [.made 1], .addBuiltins]

def mainLast : List Order :=
  [.addBuiltins, .make 0 (.plain "number"), .make 1 (.member "Volume" (.made 0) true none),
    .addInterface "StatusTree" [], .extend "add_child" (.interface "StatusTree") [.made 1],
    .addMain "TypedXAPI" "XAPI" true]

theorem interleaved_mainFirst : Interleaved mainFirst mainLast := by
  intro l
  cases l <;> rfl

theorem text_of_mainFirst :
    ∃ s s' : Session, (Session.start "jsxapi").run mainFirst = some s ∧
      (Session.start "jsxapi").run mainLast = some s' ∧ s.bench.text = s'.bench.text := by
  have hfirst : ((Session.start "jsxapi").run mainFirst).isSome = true := rfl
  have hlast : ((Session.start "jsxapi").run mainLast).isSome = true := rfl
  obtain ⟨s, hs⟩ := Option.isSome_iff_exists.1 hfirst
  obtain ⟨s', hs'⟩ := Option.isSome_iff_exists.1 hlast
  exact ⟨s, s', hs, hs',
    text_of_interleaved.1 "jsxapi" mainFirst mainLast s s' interleaved_mainFirst hs hs'⟩

end DeviceTypings.Workbench
