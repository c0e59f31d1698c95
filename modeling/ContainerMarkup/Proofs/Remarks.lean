/-
ContainerMarkup/Proofs/Remarks.lean

Failures on their way out.  A failure starts with a cause and is annotated by
remarks: a remark puts a layer around the failure, which may say in which
container it happened, or sets the context of the layer that is outermost.

A failure has one kind and a list of layers.  Handed on from caller to caller
it is a record inside a record (`Failure.Record`): each layer has a kind of
its own and holds the failure it was put around, and the line that is shown
comes from following the causes inwards.  Remarks act on both alike,

    (f.annotate remark).record = f.record.annotate remark,

so the kind of a failure is that of each of its layers, and the lines agree.

Main result: whatever the cause and the remarks, every layer has the kind of
the cause; the layers are those of the remarks, the last one first, around
that of the cause, which keeps its message; the line and the report consist of
the kind and these messages; and a remark that sets a context has no effect
but on the context of one layer (`Cause.annotated`).
-/
import ContainerMarkup.Failure

namespace ContainerMarkup

/-! ### Remarks -/

/-- What is added to a failure on its way out. -/
inductive Remark where
  | wrap (message : String)
  | withContext (context : String)
  | inContainer (name : String)
deriving DecidableEq, Repr

namespace Remark

/-- The message of the layer that a remark puts around a failure, if it does. -/
def wording? : Remark → Option String
  | .wrap message => some message
  | .withContext _ => none
  | .inContainer name => some s!"An error occurred while processing container: {name}!"

/-- Whether a remark puts a layer around a failure. -/
def addsLayer (remark : Remark) : Bool := remark.wording?.isSome

/-- The context that the outermost layer is left with if it is given one and
remarks follow: the last one given before the next layer. -/
def lastContext (context : String) : List Remark → String
  | .withContext later :: remarks => lastContext later remarks
  | _ => context

end Remark

/-- The layer with a context, whatever it had before. -/
def Layer.about (context : String) (layer : Layer) : Layer :=
  { layer with context := some context }

namespace Failure

/-- Add a remark. -/
def annotate (f : Failure) : Remark → Failure
  | .wrap message => f.wrap message
  | .withContext context => f.withContext context
  | .inContainer name => f.inContainer name

/-- Add remarks, one after the other. -/
def annotateAll (f : Failure) (remarks : List Remark) : Failure := remarks.foldl annotate f

theorem annotateAll_cons (f : Failure) (remark : Remark) (remarks : List Remark) :
    f.annotateAll (remark :: remarks) = (f.annotate remark).annotateAll remarks := rfl

theorem annotateAll_append (f : Failure) (before after : List Remark) :
    f.annotateAll (before ++ after) = (f.annotateAll before).annotateAll after :=
  List.foldl_append

/-! ### Kind and messages -/

theorem kind_annotate (f : Failure) (remark : Remark) : (f.annotate remark).kind = f.kind := by
  cases remark <;> rfl

theorem kind_annotateAll (f : Failure) (remarks : List Remark) :
    (f.annotateAll remarks).kind = f.kind := by
  induction remarks generalizing f with
  | nil => rfl
  | cons remark remarks ih => rw [annotateAll_cons, ih, kind_annotate]

/-- The messages of a failure, outermost first. -/
def messages (f : Failure) : List String := f.chain.map Layer.message

theorem messages_annotate (f : Failure) (remark : Remark) :
    (f.annotate remark).messages = remark.wording?.toList ++ f.messages := by
  cases remark <;> rfl

theorem messages_annotateAll (f : Failure) (remarks : List Remark) :
    (f.annotateAll remarks).messages =
      (remarks.filterMap Remark.wording?).reverse ++ f.messages := by
  induction remarks generalizing f with
  | nil => rfl
  | cons remark remarks ih =>
    rw [annotateAll_cons, ih, messages_annotate]
    rcases hword : remark.wording? with - | word
    · rw [List.filterMap_cons_none hword, Option.toList_none, List.nil_append]
    · rw [List.filterMap_cons_some hword, List.reverse_cons, List.append_assoc, Option.toList_some]

theorem getLast?_messages (f : Failure) : f.messages.getLast? = some f.rootCause.message := by
  rw [messages, List.getLast?_map, getLast?_chain]
  rfl

/-! ### Contexts -/

/-- Change one of the inner layers. -/
def modifyInner (f : Failure) (position : Nat) (change : Layer → Layer) : Failure :=
  { f with inner := f.inner.modify position change }

theorem chain_modifyInner (f : Failure) (position : Nat) (change : Layer → Layer) :
    (f.modifyInner position change).chain = f.chain.modify (position + 1) change :=
  (List.modify_succ_cons ..).symm

/-- A remark leaves the inner layers as they are; a new layer moves them
further in. -/
theorem annotate_modifyInner (f : Failure) (position : Nat) (change : Layer → Layer)
    (remark : Remark) :
    (f.modifyInner position change).annotate remark =
      (f.annotate remark).modifyInner (position + if remark.addsLayer then 1 else 0) change := by
  cases remark <;> rfl

theorem annotateAll_modifyInner (f : Failure) (position : Nat) (change : Layer → Layer)
    (remarks : List Remark) :
    (f.modifyInner position change).annotateAll remarks =
      (f.annotateAll remarks).modifyInner (position + remarks.countP Remark.addsLayer) change := by
  induction remarks generalizing f position with
  | nil => rfl
  | cons remark remarks ih =>
    rw [annotateAll_cons, annotate_modifyInner, ih, List.countP_cons, Nat.add_assoc,
      Nat.add_comm (remarks.countP _)]
    rfl

theorem chain_annotateAll_modifyInner (f : Failure) (change : Layer → Layer)
    (remarks : List Remark) :
    ((f.modifyInner 0 change).annotateAll remarks).chain =
      (f.annotateAll remarks).chain.modify (remarks.countP Remark.addsLayer + 1) change := by
  rw [annotateAll_modifyInner, chain_modifyInner, Nat.zero_add]

/-- A context is given to the outermost layer and remarks follow: all that is
different without it is the context of this layer. -/
theorem chain_withContext (f : Failure) (context : String) (remarks : List Remark) :
    ((f.withContext context).annotateAll remarks).chain =
      (f.annotateAll remarks).chain.modify (remarks.countP Remark.addsLayer)
        (Layer.about (Remark.lastContext context remarks)) := by
  induction remarks generalizing f context with
  | nil => rfl
  | cons remark remarks ih =>
    rw [annotateAll_cons, annotateAll_cons, List.countP_cons]
    cases remark with
    | wrap message =>
      -- from here on the layer is an inner one and keeps its context
      exact chain_annotateAll_modifyInner (f.wrap message) (Layer.about context) remarks
    | withContext later =>
      -- the later context takes the place of this one
      exact ih (f.withContext later) later
    | inContainer name =>
      exact chain_annotateAll_modifyInner (f.inContainer name) (Layer.about context) remarks

/-! ### Reports -/

/-- The line of a report for a message with a number of layers around it. -/
def reportLine (depth : Nat) (message : String) : String :=
  "\n" ++ String.ofList (List.replicate (2 * (depth + 1)) ' ') ++ message

theorem reportLayers_eq (depth : Nat) (out : String) (layers : List Layer) :
    reportLayers depth out layers =
      out ++ String.join ((layers.map Layer.message).mapIdx fun i => reportLine (depth + i)) := by
  induction layers generalizing depth out with
  | nil =>
    show out = out ++ ""
    rw [String.append_empty]
  | cons layer layers ih =>
    have hline : out ++ "\n" ++ Text.indent (depth + 1) ++ layer.message =
        out ++ reportLine depth layer.message := by
      simp only [String.append_assoc, reportLine, Text.indent]
    have hdeeper :
        (fun i => reportLine (depth + (i + 1))) = fun i => reportLine (depth + 1 + i) := by
      funext i
      rw [Nat.add_comm i, Nat.add_assoc]
    rw [reportLayers, ih, hline, List.map_cons, List.mapIdx_cons, String.join_cons, hdeeper,
      String.append_assoc]
    rfl

/-- A report is the kind and one line per message. -/
theorem report_eq (f : Failure) :
    f.report = f.kind.label ++ String.join (f.messages.mapIdx reportLine) := by
  have hzero : (fun i => reportLine (0 + i)) = reportLine := by
    funext i
    rw [Nat.zero_add]
  rw [report, reportLayers_eq, hzero, messages]

/-! ### Failures as records -/

/-- A failure as a record that holds the failure it was put around.  Each
layer has a kind of its own. -/
structure Record where
  kind : Kind
  layer : Layer
  cause : Option Record

namespace Record

/-- The record of a cause. -/
def ofCause (c : Cause) : Record := ⟨c.kind, ⟨c.message, c.context⟩, none⟩

/-- Put a layer around a record and give it the kind of the record. -/
def wrap (message : String) (r : Record) : Record := ⟨r.kind, ⟨message, none⟩, some r⟩

/-- Set the context of the outermost layer. -/
def withContext (context : String) (r : Record) : Record :=
  { r with layer := { r.layer with context := some context } }

/-- Add a remark. -/
def annotate (r : Record) : Remark → Record
  | .wrap message => r.wrap message
  | .withContext context => r.withContext context
  | .inContainer name =>
    (r.wrap s!"An error occurred while processing container: {name}!").withContext name

/-- Add remarks, one after the other. -/
def annotateAll (r : Record) (remarks : List Remark) : Record := remarks.foldl annotate r

/-- The record itself, its cause, the cause of its cause, and so on. -/
def layers : Record → List Record
  | ⟨kind, layer, none⟩ => [⟨kind, layer, none⟩]
  | ⟨kind, layer, some cause⟩ => ⟨kind, layer, some cause⟩ :: cause.layers

/-- Follow the causes inwards and append their messages. -/
def join (out : String) : Record → String
  | ⟨_, _, none⟩ => out
  | ⟨_, _, some cause⟩ => cause.join (out ++ " -> " ++ cause.layer.message)

/-- The record on one line. -/
def message (r : Record) : String := r.kind.label ++ ": " ++ r.join r.layer.message

/-- The record of layers inside each other, all of one kind. -/
def ofLayers (kind : Kind) (outer : Layer) : List Layer → Record
  | [] => ⟨kind, outer, none⟩
  | layer :: inner => ⟨kind, outer, some (ofLayers kind layer inner)⟩

variable (kind : Kind) (outer : Layer) (inner : List Layer)

theorem kind_ofLayers : (ofLayers kind outer inner).kind = kind := by
  cases inner <;> rfl

theorem layer_ofLayers : (ofLayers kind outer inner).layer = outer := by
  cases inner <;> rfl

theorem layers_ofLayers : (ofLayers kind outer inner).layers.map layer = outer :: inner := by
  induction inner generalizing outer with
  | nil => rfl
  | cons layer inner ih => rw [ofLayers, layers, List.map_cons, ih]

theorem kind_of_mem_layers : ∀ r ∈ (ofLayers kind outer inner).layers, r.kind = kind := by
  induction inner generalizing outer with
  | nil =>
    intro r hr
    rw [ofLayers, layers, List.mem_singleton] at hr
    rw [hr]
  | cons layer inner ih =>
    rw [ofLayers, layers, List.forall_mem_cons]
    exact ⟨rfl, ih layer⟩

theorem join_ofLayers (out : String) :
    (ofLayers kind outer inner).join (out ++ outer.message) =
      out ++ " -> ".intercalate ((outer :: inner).map Layer.message) := by
  induction inner generalizing out outer with
  | nil => rw [List.map_singleton, String.intercalate_singleton, ofLayers, join]
  | cons layer inner ih =>
    rw [ofLayers, join, layer_ofLayers, ih]
    simp only [List.map_cons, String.intercalate_cons_cons, String.append_assoc]

end Record

/-- The record of a failure. -/
def record (f : Failure) : Record := .ofLayers f.kind f.outer f.inner

/-- A remark on a failure is the remark on its record. -/
theorem record_annotate (f : Failure) (remark : Remark) :
    (f.annotate remark).record = f.record.annotate remark := by
  rcases f with ⟨kind, outer, - | ⟨layer, inner⟩⟩ <;> cases remark <;> rfl

theorem record_annotateAll (f : Failure) (remarks : List Remark) :
    (f.annotateAll remarks).record = f.record.annotateAll remarks :=
  (List.foldl_hom record fun g remark => (record_annotate g remark).symm).symm

/-- Following the causes gives the line of the failure. -/
theorem message_record (f : Failure) : f.record.message = f.message := by
  have hjoin := Record.join_ofLayers f.kind f.outer f.inner ""
  rw [String.empty_append, String.empty_append] at hjoin
  rw [Record.message, record, Record.layer_ofLayers, Record.kind_ofLayers, hjoin]
  rfl

end Failure

/-! ### Annotated causes -/

/-- **Annotated failures.**  For every cause and all remarks, every layer has
the kind of the cause.  There is one layer for each remark that adds one, the
last one outermost, and the layer of the cause, which is the root cause and
keeps its message.  A remark that sets a context makes a difference to the
context of the layer that it finds outermost, and to nothing else.  The line
and the report are made of the kind and the messages. -/
theorem Cause.annotated (c : Cause) (remarks : List Remark) :
    let f := c.failure.annotateAll remarks
    let r := (Failure.Record.ofCause c).annotateAll remarks
    let messages := (remarks.filterMap Remark.wording?).reverse ++ [c.message]
    f.kind = c.kind ∧ (∀ layer ∈ r.layers, layer.kind = c.kind) ∧
    f.chain = r.layers.map Failure.Record.layer ∧
    f.chain.length = 1 + remarks.countP Remark.addsLayer ∧
    f.chain.map Layer.message = messages ∧
    f.chain.getLast? = some f.rootCause ∧ f.rootCause.message = c.message ∧
    (∀ before context after, remarks = before ++ .withContext context :: after →
      f.chain = (c.failure.annotateAll (before ++ after)).chain.modify
        (after.countP Remark.addsLayer) (Layer.about (Remark.lastContext context after))) ∧
    f.message = c.kind.label ++ ": " ++ " -> ".intercalate messages ∧
    r.message = f.message ∧
    f.report = c.kind.label ++ String.join (messages.mapIdx fun depth message =>
      "\n" ++ String.ofList (List.replicate (2 * (depth + 1)) ' ') ++ message) := by
  intro f r messages
  have hkind : f.kind = c.kind := c.failure.kind_annotateAll remarks
  have hmessages : f.messages = messages := c.failure.messages_annotateAll remarks
  have hrecord : f.record = r := c.failure.record_annotateAll remarks
  refine ⟨hkind, ?_, ?_, ?_, hmessages, f.getLast?_chain, ?_, ?_, ?_, ?_, ?_⟩
  · rw [← hrecord, ← hkind]
    exact Failure.Record.kind_of_mem_layers f.kind f.outer f.inner
  · rw [← hrecord]
    exact (Failure.Record.layers_ofLayers f.kind f.outer f.inner).symm
  · have hlength := congrArg List.length hmessages
    rw [Failure.messages, List.length_map, List.length_append, List.length_reverse,
      List.length_filterMap_eq_countP, List.length_singleton, Nat.add_comm] at hlength
    exact hlength
  · have hlast := f.getLast?_messages
    rw [hmessages, List.getLast?_concat] at hlast
    exact (Option.some.inj hlast).symm
  · intro before context after hremarks
    show (c.failure.annotateAll remarks).chain = _
    rw [hremarks, Failure.annotateAll_append, Failure.annotateAll_append]
    exact (c.failure.annotateAll before).chain_withContext context after
  · show f.kind.label ++ ": " ++ " -> ".intercalate f.messages = _
    rw [hkind, hmessages]
  · rw [← hrecord, Failure.message_record]
  · rw [Failure.report_eq, hkind, hmessages]
    rfl

/-- A context between two layers. -/
theorem Cause.annotated_between :
    let c : Cause := .duplicate "Id"
    let remarks : List Remark := [.wrap "In line 1", .withContext "[A]", .inContainer "Tile"]
    let f := c.failure.annotateAll remarks
    let r := (Failure.Record.ofCause c).annotateAll remarks
    remarks = [.wrap "In line 1"] ++ .withContext "[A]" :: [.inContainer "Tile"] ∧
      r.layers.length = 3 ∧ (∀ layer ∈ r.layers, layer.kind = .duplicate) ∧
      f.chain.map Layer.context = [some "Tile", some "[A]", some "Id"] ∧
      f.report = "DuplicateError" ++
        "\n  An error occurred while processing container: Tile!" ++
        "\n    In line 1" ++
        "\n      Attribute with the name 'Id' has already been added." := by
  intro c remarks f r
  obtain ⟨-, hkinds, -, -, -, -, -, hcontext, -, -, hreport⟩ := c.annotated remarks
  have hchain := hcontext [.wrap "In line 1"] "[A]" [.inContainer "Tile"] rfl
  refine ⟨rfl, rfl, hkinds, ?_, hreport.trans (by decide +kernel)⟩
  show (c.failure.annotateAll remarks).chain.map Layer.context = _
  rw [hchain]
  rfl

end ContainerMarkup
