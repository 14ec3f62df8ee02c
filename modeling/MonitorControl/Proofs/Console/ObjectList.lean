/-
Lists of objects, as they are typed at the console and as they are read back.

A line about objects is cut three times: at its first two spaces, at every comma of what
stands before them, and at the first semicolon of each piece. A comment that is typed after
the list may hold all three separators, and so may a service hold semicolons. What makes the
cuts fall in the right places is that the names in the list hold no white space and no comma,
and the names of hosts no semicolon (`MonitoredObject.IsTypable`).

A place between two commas may be left empty. So a list is typed from places, each with an
object or with none, and the objects that are read are those of its places.
-/
import MonitorControl.Console.Session
import MonitorControl.Delivery.Site
import MonitorControl.Proofs.Command.Rendering
import MonitorControl.Proofs.Text.Blank
import MonitorControl.Proofs.Text.Splitting
import Mathlib.Data.List.Forall2
import Mathlib.Data.List.ReduceOption

set_option autoImplicit false

namespace MonitorControl

open Text

/-! ## Objects -/

namespace MonitoredObject

/-- **An object that can be typed**: a host, or a service on a host, by names that hold no white space
and no comma, and the name of the host no semicolon. There is no place for an instance. -/
structure IsTypable (object : MonitoredObject) : Prop where
  host_ne_nil : object.host ≠ []
  host_plain : ∀ c ∈ object.host, isBlank c = false ∧ c ≠ ',' ∧ c ≠ ';'
  service_plain : ∀ c ∈ object.service.getD [], isBlank c = false ∧ c ≠ ','
  monitor_eq : object.monitor = none

/-- The conditions are checked along the names, character by character. -/
instance (object : MonitoredObject) : Decidable object.IsTypable :=
  decidable_of_iff
    (object.host ≠ [] ∧
      (object.host.all fun c => decide (isBlank c = false ∧ c ≠ ',' ∧ c ≠ ';')) = true ∧
      ((object.service.getD []).all fun c => decide (isBlank c = false ∧ c ≠ ',')) = true ∧
      object.monitor = none)
    (by
      simp only [List.all_eq_true, decide_eq_true_iff]
      exact ⟨fun ⟨hne, hhost, hservice, hmonitor⟩ => ⟨hne, hhost, hservice, hmonitor⟩,
        fun h => ⟨h.host_ne_nil, h.host_plain, h.service_plain, h.monitor_eq⟩⟩)

/-- **An object as it is typed**: `host` or `host;service`. -/
def typed (object : MonitoredObject) : Text :=
  object.host ++ object.service.elim [] (';' :: ·)

namespace IsTypable

variable {object : MonitoredObject}

theorem plain (h : object.IsTypable) {c : Char} (hc : c ∈ object.typed) :
    isBlank c = false ∧ c ≠ ',' := by
  rw [typed, List.mem_append] at hc
  rcases hc with hhost | hservice
  · exact ⟨(h.host_plain c hhost).1, (h.host_plain c hhost).2.1⟩
  · cases hname : object.service with
    | none =>
      rw [hname] at hservice
      cases hservice
    | some service =>
      rw [hname, Option.elim_some, List.mem_cons] at hservice
      rcases hservice with rfl | hmem
      · decide
      · exact h.service_plain c (by rw [hname]; exact hmem)

theorem isTrimmed (h : object.IsTypable) : IsTrimmed object.typed :=
  ⟨fun _ hc => (h.plain (List.mem_of_mem_head? hc)).1,
    fun _ hc => (h.plain (List.mem_of_mem_getLast? hc)).1⟩

theorem typed_ne_nil (h : object.IsTypable) : object.typed ≠ [] :=
  List.append_ne_nil_of_left_ne_nil h.host_ne_nil _

/-- **An object that can be typed is read back.** The semicolon after its host is the first. -/
theorem readObject_typed (h : object.IsTypable) : readObject object.typed = object := by
  obtain ⟨host, service, monitor⟩ := object
  obtain rfl : monitor = none := h.monitor_eq
  have hhost : ';' ∉ host := fun hmem => (h.host_plain ';' hmem).2.2 rfl
  cases service with
  | none =>
    rw [typed, readObject, Option.elim_none, List.append_nil, splitFirst?_of_not_mem hhost]
  | some service => rw [typed, readObject, Option.elim_some, splitFirst?_append hhost]

end IsTypable

end MonitoredObject

/-! ## Lists of objects -/

/-- **A list as it is typed**: its places with commas between them. A place holds an object or
nothing. -/
def typedList (places : List (Option MonitoredObject)) : Text :=
  join [','] (places.map fun place => place.elim [] MonitoredObject.typed)

/-- What is typed in a place: nothing, or an object that no separator falls into. -/
theorem plain_of_place {places : List (Option MonitoredObject)}
    (h : ∀ object ∈ places.reduceOption, object.IsTypable) {place : Option MonitoredObject}
    (hplace : place ∈ places) {c : Char} (hc : c ∈ place.elim [] MonitoredObject.typed) :
    isBlank c = false ∧ c ≠ ',' := by
  cases place with
  | none => cases hc
  | some object => exact (h object (List.reduceOption_mem_iff.2 hplace)).plain hc

/-- No space falls into a list. -/
theorem not_mem_typedList {places : List (Option MonitoredObject)}
    (h : ∀ object ∈ places.reduceOption, object.IsTypable) : ' ' ∉ typedList places := by
  intro hmem
  rcases mem_join hmem with hcomma | ⟨piece, hpiece, hspace⟩
  · exact absurd hcomma (by decide)
  · obtain ⟨place, hplace, rfl⟩ := List.mem_map.1 hpiece
    exact absurd (plain_of_place h hplace hspace).1 (by decide)

/-- Each place is read as what it holds. The induction is on the places that the pieces of the list
come from. -/
theorem map_readObject_places {places : List (Option MonitoredObject)}
    (h : ∀ object ∈ places.reduceOption, object.IsTypable) :
    ((((places.map fun place => place.elim [] MonitoredObject.typed).map trim).filter
      fun piece => !piece.isEmpty).map readObject) = places.reduceOption := by
  induction places with
  | nil => rfl
  | cons place places ih =>
    cases place with
    | none => exact ih h
    | some object =>
      have hobject : object.IsTypable := h object List.mem_cons_self
      have hrest := ih fun other hother => h other (List.mem_cons_of_mem object hother)
      have hkept : (!object.typed.isEmpty) = true := by
        rw [Bool.not_eq_true', List.isEmpty_eq_false_iff]
        exact hobject.typed_ne_nil
      simp only [List.map_cons, Option.elim_some, hobject.isTrimmed.trim_eq, List.filter_cons,
        hkept, if_true, hobject.readObject_typed, hrest, List.reduceOption_cons_of_some]

/-- **The objects of a list are read back**, in order; empty places do not count. -/
theorem readObjects_typedList {places : List (Option MonitoredObject)}
    (h : ∀ object ∈ places.reduceOption, object.IsTypable) :
    readObjects (typedList places) = places.reduceOption := by
  by_cases hnil : places = []
  · rw [hnil]
    rfl
  · have hcommas : ∀ piece ∈ places.map fun place => place.elim [] MonitoredObject.typed,
        ',' ∉ piece := by
      intro piece hpiece hcomma
      obtain ⟨place, hplace, rfl⟩ := List.mem_map.1 hpiece
      exact (plain_of_place h hplace hcomma).2 rfl
    rw [readObjects, typedList, splitAll_join hcommas (by simpa using hnil),
      map_readObject_places h]

/-! ## Comments -/

/-- **Objects and a comment as they are typed**: the list, the author and the text, with a space
after each of the first two. -/
def typedComment (places : List (Option MonitoredObject)) (author text : Text) : Text :=
  typedList places ++ ' ' :: author ++ ' ' :: text

/-- **Objects and a comment are read back.** -/
theorem readComment?_typedComment {places : List (Option MonitoredObject)} {author : Text}
    (hplaces : ∀ object ∈ places.reduceOption, object.IsTypable)
    (hauthor : ∀ c ∈ author, isBlank c = false) (text : Text) :
    readComment? (typedComment places author text) =
      some (places.reduceOption, { author, content := text.trim }) := by
  have hspace : ' ' ∉ author := fun hmem => absurd (hauthor ' ' hmem) (by decide)
  rw [typedComment, List.append_assoc, List.cons_append, readComment?,
    splitFirst?_append (not_mem_typedList hplaces)]
  simp only
  rw [splitFirst?_append hspace]
  simp only
  rw [readObjects_typedList hplaces]

/-- A line that begins with the name of an instruction keeps all but the white space at the end of
its text. -/
theorem trim_typedComment (name : Text) {c : Char} (hc : c ∈ name.head?) (hfirst : isBlank c = false)
    (places : List (Option MonitoredObject)) (author : Text) {text : Text} (htext : text.trim ≠ []) :
    trim (name ++ typedComment places author text) =
      name ++ typedComment places author text.trimEnd := by
  have hsplit : ∀ t : Text, name ++ typedComment places author t =
      (name ++ (typedList places ++ ' ' :: author ++ [' '])) ++ t := by
    intro t
    simp only [typedComment, List.append_assoc, List.cons_append, List.nil_append]
  have hhead : c ∈ (name ++ (typedList places ++ ' ' :: author ++ [' '])).head? := by
    rw [List.head?_append_of_ne_nil _ (by rintro rfl; cases hc)]
    exact hc
  rw [hsplit, hsplit, trim_append_of_head hhead hfirst htext]

/-! ## Lines that are shown -/

/-- A character of a line is one of its word, a semicolon, or one of a name or an argument. -/
theorem mem_pipeLine {c : Char} {word : Text} {names arguments : List Text}
    (h : c ∈ pipeLine word names arguments) :
    c ∈ word ∨ c = ';' ∨ ∃ field ∈ names ++ arguments, c ∈ field := by
  rw [pipeLine, List.mem_append, List.mem_flatMap] at h
  rcases h with hword | ⟨field, hfield, hmem⟩
  · exact .inl hword
  · rcases List.mem_cons.1 hmem with rfl | hmem
    · exact .inr (.inl rfl)
    · exact .inr (.inr ⟨field, hfield, hmem⟩)

/-- **A line is one line** if no name and no argument in it holds a line break. -/
theorem not_mem_render {command : Command} {target : Target} {line : Text}
    (h : command.render target = .ok line)
    (hfields : ∀ field ∈ target.names ++ command.arguments, '\n' ∉ field) : '\n' ∉ line := by
  obtain ⟨word, hword, rfl⟩ := Command.exists_word_of_render h
  intro hmem
  rcases mem_pipeLine hmem with hmem | hsemicolon | ⟨field, hfield, hmem⟩
  · have hletters : word.all isCommandLetter = true :=
      (Bool.and_eq_true_iff.1 (Command.isCommandWord_word? hword)).2
    exact absurd (List.all_eq_true.1 hletters _ hmem) (by decide)
  · exact absurd hsemicolon (by decide)
  · exact hfields field hfield hmem

/-- The names of an object that can be typed hold no line break. -/
theorem MonitoredObject.IsTypable.not_mem_names {object : MonitoredObject} (h : object.IsTypable) :
    ∀ name ∈ object.target.names, '\n' ∉ name := by
  obtain ⟨host, service, monitor⟩ := object
  have hhost : '\n' ∉ host := fun hmem => absurd (h.host_plain _ hmem).1 (by decide)
  intro name hname
  cases service with
  | none =>
    rw [List.mem_singleton.1 hname]
    exact hhost
  | some service =>
    rcases List.mem_cons.1 hname with rfl | hname
    · exact hhost
    · rw [List.mem_singleton.1 hname]
      exact fun hmem => absurd (h.service_plain _ hmem).1 (by decide)

/-- **Lines that show a command** for some objects: one for each, in order, which is the command
rendered for the object and has no line break in it. -/
def Shows (command : Command) (objects : List MonitoredObject) (lines : List Text) : Prop :=
  List.Forall₂ (fun object line => command.render object.target = .ok line ∧ '\n' ∉ line)
    objects lines

/-- The dry run of a command that every object supports shows nothing else. -/
theorem shows_renderEach {command : Command} {objects : List MonitoredObject}
    (hobjects : ∀ object ∈ objects, object.IsTypable)
    (hsupports : ∀ object : MonitoredObject, command.supports object.target.kind = true)
    (harguments : ∀ argument ∈ command.arguments, '\n' ∉ argument) :
    Shows command objects ((renderEach (fun _ => .ok command) objects).map rehearsedLine) := by
  induction objects with
  | nil => exact .nil
  | cons object objects ih =>
    obtain ⟨word, -, hline⟩ := Command.exists_word (hsupports object)
    have hfields : ∀ field ∈ object.target.names ++ command.arguments, '\n' ∉ field := by
      intro field hfield
      rcases List.mem_append.1 hfield with hname | hargument
      · exact (hobjects object List.mem_cons_self).not_mem_names field hname
      · exact harguments field hargument
    have hshown : rehearsedLine (object.target, command.render object.target) =
        pipeLine word object.target.names command.arguments := by
      rw [hline]
      rfl
    refine .cons ?_ (ih fun other hother => hobjects other (List.mem_cons_of_mem _ hother))
    show command.render object.target = .ok (rehearsedLine (_, command.render object.target)) ∧
      '\n' ∉ rehearsedLine (_, command.render object.target)
    rw [hshown]
    exact ⟨hline, not_mem_render hline hfields⟩

/-! ## Instructions with a comment -/

namespace Console

section

variable {m : Type → Type} [Monad m] {console : Console m}

/-- **A typed instruction with objects and a comment is carried out for these.** The white space at
the end of the line is taken off before the line is cut; the text would lose it anyway. -/
theorem reply_commented (name : Text) {make : List MonitoredObject → Comment → Instruction}
    (hread : ∀ rest, Instruction.read (':' :: name ++ ' ' :: rest) =
      Instruction.commented make rest)
    {places : List (Option MonitoredObject)} {author text : Text}
    (hplaces : ∀ object ∈ places.reduceOption, object.IsTypable)
    (hauthor : ∀ c ∈ author, isBlank c = false) (htext : text.trim ≠ []) :
    console.reply (':' :: name ++ ' ' :: typedComment places author text) =
      console.carryOut (make places.reduceOption { author, content := text.trim }) := by
  have hkept := trim_typedComment (':' :: name ++ [' ']) rfl (by decide) places author htext
  rw [List.append_assoc, List.append_assoc, List.singleton_append, List.singleton_append] at hkept
  rw [reply]
  simp only [hkept]
  rw [hread, Instruction.commented, readComment?_typedComment hplaces hauthor, trim_trimEnd]
  rfl

/-- Without a chain a command is shown. -/
theorem operate_practice (hpractice : console.chain = none) (objects : List MonitoredObject)
    (noun : Text) (command : Except CommandError Command) :
    console.operate objects noun command =
      pure ((renderEach (fun _ => command) objects).map rehearsedLine) := by
  rw [operate, hpractice]

end

/-! ## Main result -/

/-- **A list of objects is read back as it was typed, with its comment.** The list is typed from
places with commas between them, each an object by names without separators or nothing at all; an
author without white space and any text that is not blank follow, each after a space. All three are
read back: the objects in order, the author, and the text without the white space at its ends. In a
console for practice, both instructions that take such a line show one line for each object, in
order, which is the command rendered for it. -/
theorem reply_typedComment {m : Type → Type} [Monad m] [LawfulMonad m] (console : Console m)
    (hpractice : console.chain = none) (places : List (Option MonitoredObject))
    (author text : Text) (hplaces : ∀ object ∈ places.reduceOption, object.IsTypable)
    (hauthor : ∀ c ∈ author, isBlank c = false) (htext : text.trim ≠ []) (hbreak : '\n' ∉ text) :
    let typed := typedComment places author text
    let objects := places.reduceOption
    let comment : Comment := { author, content := text.trim }
    readComment? typed = some (objects, comment) ∧
    (∃ lines, console.reply (":ack ".toList ++ typed) = pure (.lines lines) ∧
      Shows (.acknowledge { comment }) objects lines) ∧
    (∃ lines, console.reply (":comment ".toList ++ typed) = pure (.lines lines) ∧
      Shows (.addComment comment) objects lines) := by
  intro typed objects comment
  have hkind : ∀ object : MonitoredObject, object.target.kind.isObject = true := by
    rintro ⟨host, service, monitor⟩
    cases service <;> rfl
  -- the arguments are switches that are off, the author and the text
  have harguments : ∀ argument ∈ [['0'], author, text.trim], '\n' ∉ argument := by
    obtain ⟨lead, trail, hparts, -⟩ := exists_trim_parts text
    have hauthorBreak : '\n' ∉ author := fun hmem => absurd (hauthor _ hmem) (by decide)
    have htextBreak : '\n' ∉ text.trim := by
      intro hmem
      rw [hparts] at hbreak
      exact hbreak (List.mem_append_left _ (List.mem_append_right _ hmem))
    simp only [List.forall_mem_cons, List.not_mem_nil, false_imp_iff, implies_true, and_true]
    exact ⟨by decide, hauthorBreak, htextBreak⟩
  refine ⟨readComment?_typedComment hplaces hauthor text,
    ⟨_, ?_, shows_renderEach hplaces hkind fun argument hargument => harguments argument ?_⟩,
    ⟨_, ?_, shows_renderEach hplaces hkind harguments⟩⟩
  · refine (reply_commented "ack" (fun _ => rfl) hplaces hauthor htext).trans ?_
    rw [carryOut, operate_practice hpractice, pure_bind]
  · simpa [Command.arguments, flagText] using hargument
  · refine (reply_commented "comment" (fun _ => rfl) hplaces hauthor htext).trans ?_
    rw [carryOut, operate_practice hpractice, pure_bind]

/-- A service with a semicolon in its name, empty places, and a text with every separator. -/
theorem reply_typedComment_separators :
    let console : Console (StateM Site) :=
      { outlets := Site.outlets, settings := {}, table := "objects", chain := none }
    let service : MonitoredObject := { host := "web", service := some "a;b" }
    let host : MonitoredObject := { host := "db" }
    let places : List (Option MonitoredObject) := [none, some service, none, some host]
    let text : Text := "  x, y;  z "
    console.chain = none ∧ (∀ object ∈ places.reduceOption, object.IsTypable) ∧
      text.trim ≠ [] ∧ '\n' ∉ text ∧
      typedComment places "me" text = ",web;a;b,,db me   x, y;  z ".toList ∧
      readComment? ",web;a;b,,db me   x, y;  z ".toList =
        some ([service, host], { author := "me", content := "x, y;  z" }) ∧
      console.reply ":ack ,web;a;b,,db me   x, y;  z ".toList =
        pure (.lines ["ACKNOWLEDGE_SVC_PROBLEM;web;a;b;0;0;0;me;x, y;  z",
          "ACKNOWLEDGE_HOST_PROBLEM;db;0;0;0;me;x, y;  z"]) := by
  intro console service host places text
  have hplaces : ∀ object ∈ places.reduceOption, object.IsTypable := by decide
  have hauthor : ∀ c ∈ "me".toList, isBlank c = false :=
    List.forall_mem_cons.2 ⟨rfl, List.forall_mem_singleton.2 rfl⟩
  obtain ⟨hread, ⟨lines, hreply, hshows⟩, -⟩ :=
    reply_typedComment console rfl places "me" text hplaces hauthor (by decide) (by decide)
  refine ⟨rfl, hplaces, by decide, by decide, rfl, hread, hreply.trans ?_⟩
  -- what is shown is rendered, so it can be computed
  change Shows _ [service, host] lines at hshows
  obtain ⟨first, rest, ⟨hfirst, -⟩, hrest, rfl⟩ := List.forall₂_cons_left_iff.1 hshows
  obtain ⟨second, rest, ⟨hsecond, -⟩, hend, rfl⟩ := List.forall₂_cons_left_iff.1 hrest
  obtain rfl := List.forall₂_nil_left_iff.1 hend
  obtain rfl : _ = first := Except.ok.inj hfirst
  obtain rfl : _ = second := Except.ok.inj hsecond
  rfl

end Console

end MonitorControl
