import HidRelay.Proofs.Descriptor.Written
import Mathlib.Data.List.Induction

/-!
Descriptors as trees, and what they mean without stacks: an outline is a sequence of settings, fields,
saved groups and collections, the last two around outlines of their own.
-/

set_option autoImplicit false

namespace HidRelay.Descriptor

open Report (Kind Field Layout Catalog)

inductive Declared where
  | single (usage : Payload)
  | range (low high : Payload) (ordered : low.unsigned ≤ high.unsigned) (bounded : high.unsigned ≤ 65535)
deriving DecidableEq, Repr

inductive Outline where
  | done
  | global (setting : Setting) (value : Payload) (rest : Outline)
  | saved (body rest : Outline)
  | field (declared : List Declared) (kind : Kind) (flags : Payload) (rest : Outline)
  | collection (declared : List Declared) (type : Payload) (body rest : Outline)
deriving DecidableEq, Repr

namespace Declared

def tokens : Declared → List Token
  | .single usage => [Tag.usage.write usage]
  | .range low high _ _ => [Tag.usageMin.write low, Tag.usageMax.write high]

def usages : Declared → List UInt16
  | .single usage => [UInt16.ofNat usage.unsigned]
  | .range low high _ _ => (List.range' low.unsigned (high.unsigned - low.unsigned + 1)).map UInt16.ofNat

end Declared

def Globals.set (globals : Globals) (value : Payload) : Setting → Globals
  | .page => { globals with page := UInt16.ofNat value.unsigned }
  | .logicalMin => { globals with logicalMin := value.signed }
  | .logicalMax => { globals with logicalMax := value.signed }
  | .reportSize => { globals with width := value.unsigned }
  | .reportId => { globals with id := UInt8.ofNat value.unsigned }
  | .reportCount => { globals with count := value.unsigned }

-- The globals behind an outline, the fields it leaves to the application around it, and the layouts of
-- the applications in it, in the order in which they close.
structure Meaning where
  globals : Globals
  fields : List (Kind × Field)
  layouts : List Layout

namespace Outline

def tokens : Outline → List Token
  | .done => []
  | .global setting value rest => (Tag.global setting).write value :: rest.tokens
  | .saved body rest => Tag.push.write .none :: (body.tokens ++ Tag.pop.write .none :: rest.tokens)
  | .field declared kind flags rest =>
      declared.flatMap Declared.tokens ++ (Tag.field kind).write flags :: rest.tokens
  | .collection declared type body rest =>
      declared.flatMap Declared.tokens ++
        Tag.collection.write type :: (body.tokens ++ Tag.endCollection.write .none :: rest.tokens)

def encode (outline : Outline) : Bytes := Token.encodeAll outline.tokens

def usagesOf (declared : List Declared) : List UInt16 := declared.flatMap Declared.usages

def fieldsOf (kind : Kind) (fields : List (Kind × Field)) : List Field :=
  fields.filterMap fun declared => if declared.1 = kind then some declared.2 else none

def layoutsOf (page usage : UInt16) (id : UInt8) (fields : List (Kind × Field)) : List Layout :=
  [Kind.input, .output, .feature].map fun kind => ⟨page, usage, kind, id, fieldsOf kind fields⟩

def meaning (globals : Globals) : Outline → Meaning
  | .done => ⟨globals, [], []⟩
  | .global setting value rest => rest.meaning (globals.set value setting)
  | .saved body rest =>
      let inner := body.meaning globals
      let later := rest.meaning globals
      ⟨later.globals, inner.fields ++ later.fields, inner.layouts ++ later.layouts⟩
  | .field declared kind _ rest =>
      let later := rest.meaning globals
      let own : Field := {
        page := globals.page, usages := usagesOf declared, width := globals.width, count := globals.count,
        logicalMin := globals.logicalMin, logicalMax := globals.logicalMax }
      { later with fields := (kind, own) :: later.fields }
  | .collection declared type body rest =>
      let inner := body.meaning globals
      let later := rest.meaning inner.globals
      if type.unsigned % 256 = 1 then
        let own := layoutsOf globals.page ((usagesOf declared).getLast?.getD 0) inner.globals.id inner.fields
        ⟨later.globals, later.fields, inner.layouts ++ own ++ later.layouts⟩
      else ⟨later.globals, inner.fields ++ later.fields, inner.layouts ++ later.layouts⟩

end Outline

def declareAll (fields : List (Kind × Field)) (collections : List Collection) : List Collection :=
  fields.foldl (fun collections declared => Collection.declare declared.1 declared.2 collections) collections

def insertAll (layouts : List Layout) (catalog : Catalog) : Catalog :=
  layouts.foldl (fun catalog layout => catalog.insert layout) catalog

def Reader.behind (reader : Reader) (meaning : Meaning) : Reader where
  globals := meaning.globals
  saved := reader.saved
  usages := []
  collections := declareAll meaning.fields reader.collections
  catalog := insertAll meaning.layouts reader.catalog

theorem declare_all_append (before after : List (Kind × Field)) (collections : List Collection) :
    declareAll (before ++ after) collections = declareAll after (declareAll before collections) :=
  List.foldl_append

theorem insert_all_append (before after : List Layout) (catalog : Catalog) :
    insertAll (before ++ after) catalog = insertAll after (insertAll before catalog) :=
  List.foldl_append

theorem declare_all_plain (fields : List (Kind × Field)) (outer : List Collection) :
    declareAll fields (.plain :: outer) = .plain :: declareAll fields outer := by
  induction fields generalizing outer with
  | nil => rfl
  | cons declared rest ih => exact ih (Collection.declare declared.1 declared.2 outer)

theorem declare_all_application (fields known : List (Kind × Field)) (page usage : UInt16) (outer : List Collection) :
    declareAll fields (.application page usage known :: outer) =
      .application page usage (known ++ fields) :: outer := by
  induction fields generalizing known with
  | nil => rw [List.append_nil]; rfl
  | cons declared rest ih =>
      rw [List.append_cons]
      exact ih (known ++ [declared])

theorem fields_of_filter (kind : Kind) (fields : List (Kind × Field)) :
    (fields.filter fun declared => declared.1 = kind).map (·.2) = Outline.fieldsOf kind fields := by
  induction fields with
  | nil => rfl
  | cons declared rest ih =>
      by_cases same : declared.1 = kind
      · simpa [Outline.fieldsOf, same] using ih
      · simpa [Outline.fieldsOf, same] using ih

theorem close_application (id : UInt8) (page usage : UInt16) (fields : List (Kind × Field)) (catalog : Catalog) :
    Collection.close id catalog (.application page usage fields) =
      insertAll (Outline.layoutsOf page usage id fields) catalog := by
  simp only [Collection.close, Collection.layout, fields_of_filter]
  rfl

namespace Reader

theorem behind_nothing (reader : Reader) (fresh : reader.usages = []) :
    reader.behind ⟨reader.globals, [], []⟩ = reader := by
  obtain ⟨globals, saved, usages, collections, catalog⟩ := reader
  cases fresh
  rfl

theorem range_usages (first last : Nat) :
    UInt16.ofNat first :: usagesBetween (UInt16.ofNat first).toNat last =
      (List.range' (first % 65536) (min last 65535 - first % 65536 + 1)).map UInt16.ofNat := by
  rw [usagesBetween, UInt16.toNat_ofNat', List.range'_succ, List.map_cons]
  exact congrArg (· :: _) UInt16.ofNat_mod_size.symm

-- A range whose end lies before its start is the start alone.
theorem accepts_range (reader : Reader) (tag : Tag) (first last : Payload) (start : tag = .usage ∨ tag = .usageMin) :
    Accepts reader [tag.write first, Tag.usageMax.write last] { reader with
      usages := reader.usages ++ (List.range' (first.unsigned % 65536)
        (min last.unsigned 65535 - first.unsigned % 65536 + 1)).map UInt16.ofNat } := by
  let started : Reader := { reader with usages := reader.usages ++ [UInt16.ofNat first.unsigned] }
  refine accepts_append reader started _ [_] [_] (accepts_write reader started tag first fun _ => ?_) ?_
  · rcases start with rfl | rfl <;> rfl
  · refine accepts_write started _ .usageMax last fun offset => ?_
    simp only [Tag.directive, step, started, List.getLast?_concat, List.append_assoc, List.singleton_append, range_usages]

theorem accepts_declared (reader : Reader) (declared : Declared) :
    Accepts reader declared.tokens { reader with usages := reader.usages ++ declared.usages } := by
  cases declared with
  | single usage => exact accepts_write reader _ .usage usage fun _ => rfl
  | range low high ordered bounded =>
      have range := accepts_range reader .usageMin low high (.inr rfl)
      rwa [Nat.min_eq_left bounded, Nat.mod_eq_of_lt (by omega)] at range

theorem accepts_all_declared (reader : Reader) (declared : List Declared) :
    Accepts reader (declared.flatMap Declared.tokens)
      { reader with usages := reader.usages ++ Outline.usagesOf declared } := by
  induction declared generalizing reader with
  | nil =>
      rw [Outline.usagesOf, List.flatMap_nil, List.flatMap_nil, List.append_nil]
      exact accepts_nothing reader
  | cons first rest ih =>
      rw [Outline.usagesOf, List.flatMap_cons, List.flatMap_cons, ← List.append_assoc]
      exact accepts_append reader _ _ _ _ (accepts_declared reader first) (ih _)

theorem accepts_collection (reader inside behindBody closed final : Reader) (declared : List Declared)
    (type : Payload) (body rest : List Token)
    (opens : ∀ offset, step { reader with usages := reader.usages ++ Outline.usagesOf declared } offset
      (.beginCollection (type.unsigned % 256 = 1)) = .ok inside)
    (inner : Accepts inside body behindBody)
    (closes : ∀ offset, behindBody.step offset .endCollection = .ok closed)
    (later : Accepts closed rest final) :
    Accepts reader (declared.flatMap Declared.tokens ++
      Tag.collection.write type :: (body ++ Tag.endCollection.write .none :: rest)) final := by
  refine accepts_append reader _ _ _ _ (accepts_all_declared reader declared) ?_
  refine accepts_append _ inside _ [_] _ (accepts_write _ inside .collection type opens) ?_
  refine accepts_append inside behindBody _ body _ inner ?_
  exact accepts_append behindBody closed _ [_] rest (accepts_write behindBody closed .endCollection .none closes) later

-- The induction carries the whole reader: the stacks under an outline are those it started on, with
-- the fields that escaped its applications declared to whatever is around it.
theorem accepts_outline (reader : Reader) (outline : Outline) (fresh : reader.usages = []) :
    Accepts reader outline.tokens (reader.behind (outline.meaning reader.globals)) := by
  induction outline generalizing reader with
  | done =>
      rw [Outline.meaning, behind_nothing reader fresh]
      exact accepts_nothing reader
  | global setting value rest ih =>
      let assigned : Reader := { reader with globals := reader.globals.set value setting }
      refine accepts_append reader assigned _ [_] rest.tokens ?_ (ih assigned fresh)
      refine accepts_write reader assigned (.global setting) value fun offset => ?_
      cases setting <;> rfl
  | saved body rest inner later =>
      let pushed : Reader := { reader with saved := reader.globals :: reader.saved }
      let restored : Reader := { pushed.behind (body.meaning reader.globals) with
        globals := reader.globals, saved := reader.saved }
      have final : restored.behind (rest.meaning reader.globals) =
          reader.behind ((Outline.saved body rest).meaning reader.globals) := by
        simp only [behind, restored, pushed, Outline.meaning, declare_all_append, insert_all_append]
      rw [← final]
      refine accepts_append reader pushed _ [_] _ (accepts_write reader pushed .push .none fun _ => rfl) ?_
      refine accepts_append pushed _ _ body.tokens _ (inner pushed fresh) ?_
      exact accepts_append _ restored _ [_] rest.tokens (accepts_write _ restored .pop .none fun _ => rfl)
        (later restored rfl)
  | field declared kind flags rest ih =>
      let pending : Reader := { reader with usages := reader.usages ++ Outline.usagesOf declared }
      let field := reader.globals.field (Outline.usagesOf declared)
      let next : Reader := { reader with
        usages := [], collections := Collection.declare kind field reader.collections }
      refine accepts_append reader pending _ _ _ (accepts_all_declared reader declared) ?_
      refine accepts_append pending next _ [_] rest.tokens ?_ (ih next rfl)
      refine accepts_write pending next (.field kind) flags fun offset => ?_
      simp only [Tag.directive, step, pending, next, field, fresh, List.nil_append]
  | collection declared type body rest inner later =>
      let globals := reader.globals
      let within := body.meaning globals
      let usage := (Outline.usagesOf declared).getLast?.getD 0
      -- Only an application keeps its fields from what is around it.
      by_cases application : type.unsigned % 256 = 1
      · let inside : Reader := { reader with
          usages := [], collections := .application globals.page usage [] :: reader.collections }
        let own := Outline.layoutsOf globals.page usage within.globals.id within.fields
        let closed : Reader := { reader with
          globals := within.globals, usages := [], catalog := insertAll own (insertAll within.layouts reader.catalog) }
        have final : closed.behind (rest.meaning within.globals) =
            reader.behind ((Outline.collection declared type body rest).meaning globals) := by
          simp only [behind, closed, own, within, usage, Outline.meaning, if_pos application, insert_all_append]
        rw [← final]
        refine accepts_collection reader inside _ closed _ declared type _ _ ?_ (inner inside rfl) ?_ (later closed rfl)
        · simp [step, inside, globals, usage, fresh, application]
        · intro offset
          simp only [step, behind, inside, declare_all_application, close_application]
          rfl
      · let inside : Reader := { reader with usages := [], collections := .plain :: reader.collections }
        let closed := reader.behind within
        have final : closed.behind (rest.meaning within.globals) =
            reader.behind ((Outline.collection declared type body rest).meaning globals) := by
          simp only [behind, closed, within, Outline.meaning, if_neg application, declare_all_append, insert_all_append]
        rw [← final]
        refine accepts_collection reader inside _ closed _ declared type _ _ ?_ (inner inside rfl) ?_ (later closed rfl)
        · simp [step, inside, application]
        · intro offset
          simp only [step, behind, inside, declare_all_plain]
          rfl

end Reader

namespace Outline

theorem declared_well_formed (declared : List Declared) (token : Token)
    (member : token ∈ declared.flatMap Declared.tokens) : token.WellFormed := by
  obtain ⟨one, _, written⟩ := List.mem_flatMap.mp member
  cases one with
  | single usage =>
      rw [List.mem_singleton.mp written]
      exact Tag.write_well_formed .usage usage
  | range low high ordered bounded =>
      rcases List.mem_cons.mp written with rfl | last
      · exact Tag.write_well_formed .usageMin low
      · rw [List.mem_singleton.mp last]
        exact Tag.write_well_formed .usageMax high

theorem tokens_well_formed (outline : Outline) (token : Token) (member : token ∈ outline.tokens) :
    token.WellFormed := by
  induction outline with
  | done => cases member
  | global setting value rest ih =>
      rcases List.mem_cons.mp member with rfl | later
      · exact Tag.write_well_formed _ value
      · exact ih later
  | saved body rest inner later =>
      simp only [tokens, List.mem_cons, List.mem_append] at member
      rcases member with rfl | within | rfl | behind
      · exact Tag.write_well_formed _ _
      · exact inner within
      · exact Tag.write_well_formed _ _
      · exact later behind
  | field declared kind flags rest ih =>
      simp only [tokens, List.mem_cons, List.mem_append] at member
      rcases member with usages | rfl | behind
      · exact declared_well_formed declared token usages
      · exact Tag.write_well_formed _ flags
      · exact ih behind
  | collection declared type body rest inner later =>
      simp only [tokens, List.mem_cons, List.mem_append] at member
      rcases member with usages | rfl | within | rfl | behind
      · exact declared_well_formed declared token usages
      · exact Tag.write_well_formed _ type
      · exact inner within
      · exact Tag.write_well_formed _ _
      · exact later behind

end Outline

def lastOf (kind : Kind) (id : UInt8) (layouts : List Layout) : Option Layout :=
  (layouts.filter fun layout => layout.kind = kind ∧ layout.id = id).getLast?

theorem last_of_append (kind : Kind) (id : UInt8) (before after : List Layout) :
    lastOf kind id (before ++ after) = (lastOf kind id after).or (lastOf kind id before) := by
  rw [lastOf, List.filter_append, List.getLast?_append]
  rfl

theorem layout_of_layouts (layouts : List Layout) (kind : Kind) (id : UInt8) :
    (Catalog.ofLayouts layouts).layout? kind id = lastOf kind id layouts := by
  induction layouts using List.reverseRecOn with
  | nil => exact Catalog.layout_empty kind id
  | append_singleton earlier layout ih =>
      have last : Catalog.ofLayouts (earlier ++ [layout]) = (Catalog.ofLayouts earlier).insert layout :=
        insert_all_append earlier [layout] .empty
      rw [last, Catalog.layout_insert, ih, last_of_append]
      by_cases own : layout.kind = kind ∧ layout.id = id
      · obtain ⟨rfl, rfl⟩ := own
        simp [lastOf]
      · have other : ¬ (kind = layout.kind ∧ id = layout.id) := fun same => own ⟨same.1.symm, same.2.symm⟩
        rw [if_neg other]
        simp [lastOf, own]

-- Before the first setting everything is zero.
theorem read_outline (outline : Outline) : ∃ catalog, read outline.encode = .ok catalog ∧
    ∀ kind id, catalog.layout? kind id = lastOf kind id (outline.meaning ⟨0, 0, 0, 0, 0, 0⟩).layouts :=
  ⟨_, read_of_accepts outline.tokens _ outline.tokens_well_formed (Reader.accepts_outline .initial outline rfl),
    layout_of_layouts _⟩

end HidRelay.Descriptor
