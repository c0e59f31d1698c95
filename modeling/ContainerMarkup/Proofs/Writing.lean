/-
ContainerMarkup/Proofs/Writing.lean

What commands do to the disk.  A write puts one file in its place.  The folders
on the way to that place are none of it, so what a path leads to is the same
before and after, and the path of the written file leads to the new text:

    s.write path text = .ok s'  →  s'.fileText path = .ok text,

unless the system refuses to read the file, as it did before.

Most commands only speak.  The exception is an export to a file, which writes
once, and not before it has a tree; what it writes is therefore known from the
disk as it was, even if the file it writes is the one it has read.

Main result: a command without an output leaves the disk as it was, and so
does an export that has no tree or whose write is refused; any other export
changes the file for its output and nothing else (`Command.run_writes`).
-/
import ContainerMarkup.Proofs.Agreement

namespace ContainerMarkup

/-! ### Putting a file -/

namespace Store

variable {s s' : Store}

theorem find?_replace_other {place other : List String} (hne : other ≠ place) (f : Node → Node)
    (nodes : List (List String × Node)) :
    ((nodes.map fun n => if n.1 == place then (place, f n.2) else n).find? fun n => n.1 == other) =
      nodes.find? fun n => n.1 == other := by
  induction nodes with
  | nil => rfl
  | cons n nodes ih =>
    by_cases hn : n.1 = place
    · simpa [hn, Ne.symm hne] using ih
    · by_cases hother : n.1 = other
      · simp [hother, hne]
      · simpa [hn, hother] using ih

theorem find?_replace_same (place : List String) (f : Node → Node)
    (nodes : List (List String × Node)) :
    ((nodes.map fun n => if n.1 == place then (place, f n.2) else n).find? fun n => n.1 == place) =
      (nodes.find? fun n => n.1 == place).map fun n => (place, f n.2) := by
  induction nodes with
  | nil => rfl
  | cons n nodes ih =>
    by_cases hn : n.1 = place
    · simp [hn]
    · simpa [hn] using ih

theorem home_put (s : Store) (place : List String) (content : ByteArray) :
    (s.put place content).home = s.home := by
  unfold put
  split
  · rfl
  · rfl

theorem top_put (s : Store) (place : List String) (content : ByteArray) :
    (s.put place content).top = s.top := by
  unfold put
  split
  · rfl
  · rfl

/-- A put is seen at its place and nowhere else. -/
theorem find?_put (s : Store) {place : List String} (hne : place ≠ []) (content : ByteArray)
    (other : List String) :
    (s.put place content).find? other =
      if other = place then some (.file content (s.refusals place)) else s.find? other := by
  by_cases htop : other = []
  · -- the top is a folder whatever is put elsewhere
    subst htop
    rw [if_neg (Ne.symm hne)]
    show some (Node.folder (s.put place content).top) = some (Node.folder s.top)
    rw [top_put]
  · have hempty : ∀ {p : List String}, p ≠ [] → ¬ p.isEmpty = true := by simp
    rw [refusals, find?, find?, find?, if_neg (hempty htop), if_neg (hempty htop),
      if_neg (hempty hne), put]
    by_cases hthere : s.nodes.any fun n => n.1 == place
    · rw [if_pos hthere]
      by_cases hother : other = place
      · obtain ⟨n, hn⟩ : ∃ n, (s.nodes.find? fun n => n.1 == place) = some n :=
          Option.isSome_iff_exists.1 (List.find?_isSome.2 (List.any_eq_true.1 hthere))
        have hsame := find?_replace_same place (.file content ·.refusals) s.nodes
        rw [if_pos hother, hother, hn]
        rw [hn] at hsame
        exact congrArg (Option.map Prod.snd) hsame
      · rw [if_neg hother]
        exact congrArg _ (find?_replace_other hother (.file content ·.refusals) s.nodes)
    · rw [if_neg hthere, List.find?_append]
      by_cases hother : other = place
      · have hnone : (s.nodes.find? fun n => n.1 == place) = none := by
          rw [List.find?_eq_none]
          exact fun n hn heq => hthere (List.any_eq_true.2 ⟨n, hn, heq⟩)
        rw [if_pos hother, hother, hnone]
        simp
      · simp [hother, Ne.symm hother]

/-! ### Following a path -/

theorem permit_eq_ok {refusal : Option Fault} : permit refusal = .ok () ↔ refusal = none := by
  cases refusal with
  | none => simp [permit]
  | some fault => simp [permit]

/-- There is a way on from folders only, and into what is in them only if the
folder can be entered. -/
theorem find?_of_follow_cons {place final : List String} {c : String} {cs : List String}
    (h : s.follow place (c :: cs) = .ok final) :
    ∃ f, s.find? place = some (.folder f) ∧ (c.isEmpty = true ∨ f.refusals.enter = none) := by
  unfold follow at h
  split at h
  · next f hfolder =>
    refine ⟨f, hfolder, ?_⟩
    split at h
    · next hempty => exact .inl hempty
    · split at h
      · cases h
      · next henter => exact .inr henter
  · cases h

/-- A way through folders that are still there leads to the same folder. -/
theorem follow_of_folders
    (hkeeps : ∀ p f, s.find? p = some (.folder f) → s'.find? p = some (.folder f))
    {place folder : List String} {cs : List String}
    (h : s.follow place (cs ++ [""]) = .ok folder) (rest : List String) :
    s'.follow place (cs ++ rest) = s'.follow folder rest := by
  induction cs generalizing place with
  | nil =>
    obtain ⟨f, hfolder, -⟩ := find?_of_follow_cons h
    rw [List.nil_append, follow, hfolder] at h
    cases h
    rfl
  | cons c cs ih =>
    obtain ⟨f, hfolder, henter⟩ := find?_of_follow_cons h
    rw [List.cons_append, follow, hfolder] at h
    rw [List.cons_append, follow, hkeeps place f hfolder]
    by_cases hempty : c.isEmpty = true
    · simp only [if_pos hempty] at h ⊢
      exact ih h
    · simp only [if_neg hempty, henter.resolve_left hempty] at h ⊢
      by_cases hstays : Path.staysPut c
      · simp only [if_pos hstays] at h ⊢
        exact ih h
      · by_cases hup : c == Path.up
        · simp only [if_neg hstays, if_pos hup] at h ⊢
          exact ih h
        · by_cases hlong : maxName < c.utf8ByteSize
          · simp only [if_neg hstays, if_neg hup, if_pos hlong] at h
            cases h
          · simp only [if_neg hstays, if_neg hup, if_neg hlong] at h ⊢
            split at h
            · -- the way goes on from what is found, so that is a folder
              obtain ⟨next, more, hmore⟩ : ∃ next more, cs ++ [""] = next :: more :=
                List.exists_cons_of_ne_nil (by simp)
              obtain ⟨f', hnext, -⟩ := find?_of_follow_cons (hmore ▸ h)
              rw [hkeeps _ f' hnext]
              exact ih h
            · cases h

theorem resolve_eq_ok {path : String} {place : List String} {node : Node}
    (hcheck : checkPath path = .ok ())
    (hfollow : s.follow (s.start path) (Path.components path) = .ok place)
    (hfind : s.find? place = some node) : s.resolve path = .ok node := by
  rw [resolve, hcheck, hfollow]
  simp only [bind, Except.bind, hfind]
  rfl

theorem fromUTF8?_toUTF8 (text : String) : String.fromUTF8? text.toUTF8 = some text := by
  have hvalid : text.toUTF8.IsValidUTF8 := text.isValidUTF8
  rw [String.fromUTF8?, dif_pos hvalid]
  rfl

/-- A file with the bytes of a text has that text, unless it cannot be read. -/
theorem fileText_of_resolve {path text : String} {refusals : Refusals}
    (h : s.resolve path = .ok (.file text.toUTF8 refusals)) :
    s.fileText path = (permit refusals.read).map fun _ => text := by
  rw [fileText, h]
  simp only [bind, Except.bind, fromUTF8?_toUTF8]
  show Except.bind (permit refusals.read) _ = _
  cases refusals.read with
  | none => rfl
  | some fault => rfl

/-! ### Writing a file -/

/-- A path with a place for a file: a way to a folder that can be entered, and
a name that the folder has for a file or for nothing, neither of which is
refused. -/
structure HasPlace (s : Store) (path : String) (folder : List String) (name : String) : Prop where
  check : checkPath path = .ok ()
  way : ∃ cs, Path.components path = cs ++ [name] ∧
    s.follow (s.start path) (cs ++ [""]) = .ok folder
  enter : (s.refusals folder).enter = none
  named : Path.staysPut name = false ∧ (name == Path.up) = false ∧ name.utf8ByteSize ≤ maxName
  accept : s.accept folder name = .ok ()

/-- The place of a file is the name behind the folder. -/
theorem target_eq_ok {path : String} {place : List String} (h : s.target path = .ok place) :
    ∃ folder name, s.HasPlace path folder name ∧ place = folder ++ [name] := by
  unfold target at h
  obtain ⟨⟨⟩, hcheck, h⟩ := bind_eq_ok_iff.1 h
  have hprefix : ((Path.components path).reverse.dropWhile String.isEmpty).reverse <+:
      Path.components path := by
    rw [← List.reverse_suffix, List.reverse_reverse]
    exact List.dropWhile_suffix _
  dsimp only at h
  generalize ((Path.components path).reverse.dropWhile String.isEmpty).reverse = named at h hprefix
  split at h
  · obtain ⟨_, -, h⟩ := bind_eq_ok_iff.1 h
    cases h
  · next hname =>
    obtain ⟨folder, hfollow, h⟩ := bind_eq_ok_iff.1 h
    obtain ⟨⟨⟩, henter, h⟩ := bind_eq_ok_iff.1 h
    split at h
    · cases h
    · next hlength =>
      split at h
      · cases h
      · next hsize =>
        obtain ⟨⟨⟩, haccept, h⟩ := bind_eq_ok_iff.1 h
        obtain rfl := Except.ok.inj h
        -- nothing was cut off the end, and what is there is a name
        have hall : named = Path.components path :=
          hprefix.eq_of_length (Nat.le_antisymm hprefix.length_le (Nat.le_of_not_lt hlength))
        rcases List.eq_nil_or_concat named with rfl | ⟨cs, name, rfl⟩
        · exact absurd rfl hname
        · simp only [List.concat_eq_append, List.getLast?_concat, Option.getD_some,
            List.dropLast_concat, Bool.or_eq_true, not_or, Bool.not_eq_true] at *
          exact ⟨folder, name, ⟨hcheck, ⟨cs, hall.symm, hfollow⟩, permit_eq_ok.1 henter,
            ⟨hname.1, hname.2, Nat.le_of_not_lt hsize⟩, haccept⟩, rfl⟩

/-- A file is put in the place of no folder. -/
theorem HasPlace.find?_ne_folder {path name : String} {folder : List String}
    (h : s.HasPlace path folder name) (f : Folder) :
    s.find? (folder ++ [name]) ≠ some (.folder f) := by
  intro hfolder
  have haccept := h.accept
  rw [Store.accept, hfolder] at haccept
  cases haccept

/-- When a file has been put at its place, its path leads there. -/
theorem HasPlace.resolve_put {path name : String} {folder : List String}
    (h : s.HasPlace path folder name) (content : ByteArray) :
    (s.put (folder ++ [name]) content).resolve path =
      .ok (.file content (s.refusals (folder ++ [name]))) := by
  have hput := s.find?_put (List.append_ne_nil_of_right_ne_nil folder (List.cons_ne_nil name []))
    content
  have hkeeps : ∀ p f, s.find? p = some (.folder f) →
      (s.put (folder ++ [name]) content).find? p = some (.folder f) := by
    intro p f hp
    rw [hput, if_neg, hp]
    rintro rfl
    exact h.find?_ne_folder f hp
  obtain ⟨cs, hcomponents, hway⟩ := h.way
  obtain ⟨hstays, hup, hshort⟩ := h.named
  have hempty : name.isEmpty = false := (Bool.or_eq_false_iff.1 hstays).1
  have hstart : (s.put (folder ++ [name]) content).start path = s.start path := by
    rw [start, home_put, start]
  obtain ⟨f, hfolder, -⟩ :=
    find?_of_follow_cons ((follow_of_folders (fun _ _ => id) hway [""]).symm.trans hway)
  have henter : f.refusals.enter = none := by
    have hrefusals := h.enter
    rw [refusals, hfolder] at hrefusals
    exact hrefusals
  have hfollow : (s.put (folder ++ [name]) content).follow (s.start path) (cs ++ [name]) =
      .ok (folder ++ [name]) := by
    rw [follow_of_folders hkeeps hway, follow, hkeeps folder f hfolder]
    simp [hempty, henter, hstays, hup, Nat.not_lt.2 hshort, hput, follow]
  refine resolve_eq_ok h.check ?_ ((hput _).trans (if_pos rfl))
  rw [hstart, hcomponents, hfollow]

/-- A disk that differs from another in the file for a path, which is there
now, is what the path leads to and has a text.  What the system refuses of the
file is what it refused before, so the text can be read unless that was
refused. -/
structure ChangedAt (s : Store) (path text : String) (s' : Store) : Prop where
  place : ∃ place, s.target path = .ok place ∧
    s'.find? place = some (.file text.toUTF8 (s.refusals place)) ∧
    s'.resolve path = .ok (.file text.toUTF8 (s.refusals place)) ∧
    ∀ other, other ≠ place → s'.find? other = s.find? other
  home : s'.home = s.home
  text : ∀ place, s.target path = .ok place →
    s'.fileText path = (permit (s.refusals place).read).map fun _ => text

/-- A write changes the file for its path and nothing else. -/
theorem changedAt_of_write {path text : String} (h : s.write path text = .ok s') :
    s.ChangedAt path text s' := by
  obtain ⟨place, htarget, hs'⟩ := bind_eq_ok_iff.1 h
  obtain rfl := Except.ok.inj hs'
  obtain ⟨folder, name, hplace, rfl⟩ := target_eq_ok htarget
  have hput := s.find?_put (List.append_ne_nil_of_right_ne_nil folder (List.cons_ne_nil name []))
    text.toUTF8
  have hresolve := hplace.resolve_put text.toUTF8
  refine ⟨⟨folder ++ [name], htarget, ?_, hresolve, ?_⟩, s.home_put _ _, ?_⟩
  · rw [hput, if_pos rfl]
  · intro other hother
    rw [hput, if_neg hother]
  · intro place hplace'
    obtain rfl := Except.ok.inj (htarget.symm.trans hplace')
    exact fileText_of_resolve hresolve

-- a file of known size that can be written but not read, before and after
example :
    let denied : Fault := .stated "Permission denied (os error 13)"
    let s : Store := { nodes := [(["a"], .file "old".toUTF8 { read := some denied })] }
    s.fileSize "a" = .ok 3 ∧ s.fileText "a" = .error denied ∧
      (s.write "a" "new").map (·.fileText "a") = .ok (.error denied) :=
  ⟨rfl, rfl, rfl⟩

end Store

/-! ### Commands that speak -/

theorem Speaks.store_after {α : Type} {x : StateM World α} (h : Speaks x) (w : World) :
    (w.after x).store = w.store := by
  obtain ⟨es, hrun⟩ := h w
  rw [World.after, hrun]
  rfl

namespace Command

/-- The file that a command writes. -/
def output? : Command → Option String
  | .toJson _ output _ _ => output
  | _ => none

variable (setting : Option String)

theorem speaks_compilePath (file : String) :
    Speaks (compilePath setting file : StateM World _) := by
  refine Speaks.of_run (·.compiled setting file) fun w => ?_
  obtain ⟨entries, hrun⟩ := run_compilePath w setting file
  exact ⟨_, hrun⟩

theorem speaks_runBatchValidate (files : List String) (parallel verbose : Bool) :
    Speaks (runBatchValidate setting files parallel verbose : StateM World _) := by
  cases files with
  | nil => exact Speaks.pure _
  | cons path rest =>
    rw [runBatchValidate_cons]
    exact (Batch.speaks_process (speaks_validateFile setting) _).bind fun _ => speaks_verdict _

/-- A command without an output does nothing but speak. -/
theorem speaks_run {c : Command} (h : c.output? = none) :
    Speaks (c.run setting : StateM World _) := by
  cases c with
  | validate file =>
    refine (speaks_compilePath setting file).bind fun result => ?_
    cases result with
    | error e => exact (Speaks.print _).bind fun _ => Speaks.pure _
    | ok root => exact (Speaks.print _).bind fun _ => Speaks.pure _
  | inspect file verbose =>
    refine (speaks_compilePath setting file).bind fun result => ?_
    cases result with
    | error e => exact Speaks.pure _
    | ok root => exact (Speaks.print _).bind fun _ => (Speaks.print _).bind fun _ => Speaks.pure _
  | toJson file output compact prune =>
    obtain rfl : output = none := h
    refine (speaks_compilePath setting file).bind fun result => ?_
    cases result with
    | error e => exact Speaks.pure _
    | ok root => exact (Speaks.print _).bind fun _ => Speaks.pure _
  | batchValidate files parallel verbose =>
    exact speaks_runBatchValidate setting files parallel verbose

/-! ### Exports to a file -/

/-- A file compiles to a tree: it can be read, it is not too large, and its
text compiles. -/
def Compiles (s : Store) (file : String) (root : Container) : Prop :=
  ∃ size text, s.fileSize file = .ok size ∧ size ≤ sizeLimit setting ∧
    s.fileText file = .ok text ∧ (compile (optionsFor setting file) text).result = .ok root

theorem compiled_eq_ok_iff (s : Store) (file : String) (root : Container) :
    s.compiled setting file = .ok root ↔ Compiles setting s file root := by
  have hsource : ∀ text, s.sourceText (sizeLimit setting) file = .ok text ↔
      ∃ size, s.fileSize file = .ok size ∧ size ≤ sizeLimit setting ∧
        s.fileText file = .ok text := by
    intro text
    rw [Store.sourceText]
    rcases s.fileSize file with fault | size
    · simp
    · by_cases hsize : sizeLimit setting < size
      · simp [hsize, Nat.not_le.2 hsize]
      · simp [if_neg hsize, Nat.le_of_not_lt hsize, mapError_eq_ok_iff]
  simp only [Store.compiled, bind_eq_ok_iff, mapError_eq_ok_iff, hsource, Compiles]
  constructor
  · rintro ⟨text, ⟨size, hsize, hlimit, htext⟩, hroot⟩
    exact ⟨size, text, hsize, hlimit, htext, hroot⟩
  · rintro ⟨size, text, hsize, hlimit, htext, hroot⟩
    exact ⟨text, ⟨size, hsize, hlimit, htext⟩, hroot⟩

variable (w : World) {file : String} (o : String) (compact prune : Bool)

theorem run_writeFile (text : String) :
    (Host.writeFile o text : StateM World _).run w = match w.store.write o text with
      | .ok s => (.ok (), { w with store := s })
      | .error fault => (.error fault, w) := by
  show (World.writeFile o text).run w = _
  rw [World.writeFile, StateT.run_bind]
  simp only [StateT.run_get, pure_bind]
  cases w.store.write o text with
  | ok s => rfl
  | error fault => rfl

/-- A write leaves the disk as it was if it is refused. -/
theorem store_after_writeOutput (text : String) :
    (w.after (writeOutput text (some o))).store =
      match w.store.write o text with
      | .ok s => s
      | .error _ => w.store := by
  rw [World.after, writeOutput, StateT.run_bind, run_writeFile]
  cases w.store.write o text with
  | ok s => rfl
  | error fault => rfl

/-- An export without a tree writes nothing. -/
theorem store_after_toJson_error {e : CommandError}
    (h : w.store.compiled setting file = .error e) :
    (w.after ((toJson file (some o) compact prune).run setting)).store = w.store := by
  obtain ⟨entries, hrun⟩ := run_compilePath w setting file
  rw [World.after, run, runToJson, StateT.run_bind, hrun, h]
  rfl

/-- An export with a tree leaves what the write of its text leaves. -/
theorem store_after_toJson_ok {root : Container} (h : w.store.compiled setting file = .ok root) :
    (w.after ((toJson file (some o) compact prune).run setting)).store =
      match w.store.write o
        (root.jsonText { pruneUseless := prune, pretty := !compact } ++ "\n") with
      | .ok s => s
      | .error _ => w.store := by
  obtain ⟨entries, hrun⟩ := run_compilePath w setting file
  rw [World.after, run, runToJson, StateT.run_bind, hrun, h]
  -- the compiler has only spoken, so the write meets the disk as it was
  exact store_after_writeOutput (w.hearing _) o _

/-- **Writes.**  In every world and under every setting of the size limit, a
command without an output leaves the disk as it was.  An export to a file does
so, too, if its source does not compile to a tree or its write is refused.
Otherwise it changes the file for its output and nothing else; that file has
the text of the tree under the options, and a line break, even if it is the
source. -/
theorem run_writes (w : World) (setting : Option String) :
    (∀ c : Command, c.output? = none → (w.after (c.run setting)).store = w.store) ∧
      ∀ file o compact prune,
        let after := (w.after ((toJson file (some o) compact prune).run setting)).store
        ((¬ ∃ root, Compiles setting w.store file root) → after = w.store) ∧
          ∀ root, Compiles setting w.store file root →
            let text := root.jsonText { pruneUseless := prune, pretty := !compact } ++ "\n"
            (∀ fault, w.store.write o text = .error fault → after = w.store) ∧
              ((∀ fault, w.store.write o text ≠ .error fault) →
                w.store.ChangedAt o text after) := by
  refine ⟨fun c hc => (speaks_run setting hc).store_after w, fun file o compact prune => ⟨?_, ?_⟩⟩
  · intro hnone
    rcases hresult : w.store.compiled setting file with e | root
    · exact store_after_toJson_error setting w o compact prune hresult
    · exact absurd ⟨root, (compiled_eq_ok_iff setting w.store file root).1 hresult⟩ hnone
  · intro root hroot
    rw [store_after_toJson_ok setting w o compact prune
      ((compiled_eq_ok_iff setting w.store file root).2 hroot)]
    refine ⟨fun fault hfault => ?_, fun haccepted => ?_⟩
    · rw [hfault]
    · rcases hwrite : w.store.write o _ with fault | s'
      · exact absurd hwrite (haccepted fault)
      · exact Store.changedAt_of_write hwrite

/-- An export to the file it comes from. -/
theorem run_writes_source :
    let w : World := { store := { nodes := [(["a.mm"], .file "[R]\x7b\x7d".toUTF8)] } }
    let root : Container := ⟨"R", none, .empty, []⟩
    let text := "\x7b\"children\":[],\"name\":\"R\",\"values\":\x7b\x7d\x7d\n"
    Compiles none w.store "a.mm" root ∧ (∀ fault, w.store.write "a.mm" text ≠ .error fault) ∧
      (w.after ((toJson "a.mm" (some "a.mm") true false).run none)).store.fileText "a.mm" =
        .ok text := by
  intro w root text
  have hroot : Compiles none w.store "a.mm" root := by
    rw [← compiled_eq_ok_iff]
    decide +kernel
  have hwrite : ∀ fault, w.store.write "a.mm" text ≠ .error fault := by
    intro fault
    exact nofun
  have htext : root.jsonText { pruneUseless := false, pretty := !true } ++ "\n" = text := by
    decide +kernel
  have hafter := (((run_writes w none).2 "a.mm" "a.mm" true false).2 root hroot).2
  rw [htext] at hafter
  exact ⟨hroot, hwrite, (hafter hwrite).text ["a.mm"] rfl⟩

end Command

end ContainerMarkup
