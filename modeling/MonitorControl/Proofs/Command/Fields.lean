/-
Reading the fields of a line back.

Nothing in a line is escaped, so a semicolon inside a field looks like one between two
fields. Two commands for two targets can therefore share a line (`line_of_two_comments`).
This file says when they cannot mean different things by it: for two commands of one
type and targets of one kind, the fields are the same exactly if corresponding fields
hold equally many semicolons, and the last field need not be looked at. Names and authors
without semicolons are the case that matters, for then the rest of the line is the text
of the comment or the output of the check, whatever it holds.

The argument is a single cut, from left to right: where a field ends is known once its
semicolons are counted (`eq_of_append_eq`). How many fields there are to cut is settled by
the type and the word together, since an acknowledgement that ends at a time has a field
more and a word of its own.
-/
import MonitorControl.Proofs.Command.Rendering

set_option autoImplicit false

namespace MonitorControl

/-! ## Cutting a line -/

/-- **The number of semicolons in each field.** -/
def separators (fields : List Text) : List Nat := fields.map (List.count ';')

/-- What stands between two cuts is empty if it holds no semicolon, since a cut is at one. -/
theorem eq_nil_of_count {more back : Text} (hcount : more.count ';' = 0)
    (hcut : ∀ c ∈ (more ++ back).head?, c = ';') : more = [] := by
  cases more with
  | nil => rfl
  | cons c more =>
    have hc : c = ';' := hcut c rfl
    rw [hc, List.count_cons_self] at hcount
    omega

/-- **A text is cut in one way** at the end or before a semicolon, if it is known how many
semicolons stand before the cut. -/
theorem eq_of_append_eq {front front' back back' : Text}
    (hcount : front.count ';' = front'.count ';') (hback : ∀ c ∈ back.head?, c = ';')
    (hback' : ∀ c ∈ back'.head?, c = ';') (h : front ++ back = front' ++ back') :
    front = front' ∧ back = back' := by
  rcases List.append_eq_append_iff.1 h with ⟨more, hfront, hmore⟩ | ⟨more, hfront, hmore⟩
  · have hnil : more = [] := by
      rw [hmore] at hback
      rw [hfront, List.count_append] at hcount
      exact eq_nil_of_count (by omega) hback
    rw [hnil] at hfront hmore
    exact ⟨by rw [hfront, List.append_nil], hmore⟩
  · have hnil : more = [] := by
      rw [hmore] at hback'
      rw [hfront, List.count_append] at hcount
      exact eq_nil_of_count (by omega) hback'
    rw [hnil] at hfront hmore
    exact ⟨by rw [hfront, List.append_nil], hmore.symm⟩

/-- Behind a field a line is at its end or at a semicolon. -/
theorem head_fields (fields : List Text) : ∀ c ∈ (fields.flatMap (';' :: ·)).head?, c = ';' := by
  intro c hc
  cases fields with
  | nil => cases hc
  | cons field fields => exact (Option.some.inj hc).symm

/-- **Equally many fields are read back** from what they are written to, if corresponding fields
hold equally many semicolons. Of the last field nothing has to be known: it is the rest. -/
theorem fields_eq {fields fields' : List Text} (hlength : fields.length = fields'.length)
    (hseparators : (separators fields).dropLast = (separators fields').dropLast)
    (h : fields.flatMap (';' :: ·) = fields'.flatMap (';' :: ·)) : fields = fields' := by
  induction fields generalizing fields' with
  | nil => exact (List.eq_nil_of_length_eq_zero hlength.symm).symm
  | cons field fields ih =>
    cases fields' with
    | nil => cases hlength
    | cons field' fields' =>
      have hrest : fields.length = fields'.length := Nat.succ.inj hlength
      rw [List.flatMap_cons, List.flatMap_cons] at h
      have hline : field ++ fields.flatMap (';' :: ·) = field' ++ fields'.flatMap (';' :: ·) :=
        List.tail_eq_of_cons_eq h
      cases fields with
      | nil =>
        -- the last field is the rest of the line
        obtain rfl := List.eq_nil_of_length_eq_zero hrest.symm
        rw [List.flatMap_nil, List.append_nil, List.append_nil] at hline
        rw [hline]
      | cons second fields =>
        obtain ⟨second', fields'', rfl⟩ := List.exists_cons_of_length_eq_add_one hrest.symm
        have hcounts : field.count ';' :: (separators (second :: fields)).dropLast =
            field'.count ';' :: (separators (second' :: fields'')).dropLast := hseparators
        obtain ⟨hcount, hothers⟩ := List.cons.inj hcounts
        obtain ⟨hfield, hfields⟩ :=
          eq_of_append_eq hcount (head_fields _) (head_fields _) hline
        rw [hfield, ih hrest hothers hfields]

/-- Fields without semicolons hold equally many of them. -/
theorem separators_dropLast {fields : List Text} (h : ∀ field ∈ fields.dropLast, ';' ∉ field) :
    (separators fields).dropLast = List.replicate (fields.length - 1) 0 := by
  have hzero : fields.dropLast.map (List.count ';') = fields.dropLast.map fun _ => 0 := by
    apply List.map_congr_left
    intro field hfield
    exact List.count_eq_zero.2 (h field hfield)
  rw [separators, ← List.map_dropLast, hzero, List.map_const', List.length_dropLast]

namespace Command

/-! ## Commands of one type -/

/-- **Two commands of one type**, whatever their options. -/
inductive SameType : Command → Command → Prop where
  | acknowledge (a b : Acknowledgement) : SameType (.acknowledge a) (.acknowledge b)
  | removeAcknowledgement : SameType .removeAcknowledgement .removeAcknowledgement
  | addComment (a b : Comment) : SameType (.addComment a) (.addComment b)
  | deleteComment (a b : Deletion) : SameType (.deleteComment a) (.deleteComment b)
  | deleteAllComments : SameType .deleteAllComments .deleteAllComments
  | scheduleCheck (a b : CheckSchedule) : SameType (.scheduleCheck a) (.scheduleCheck b)
  | scheduleDowntime (a b : Downtime) : SameType (.scheduleDowntime a) (.scheduleDowntime b)
  | deleteDowntime (a b : Deletion) : SameType (.deleteDowntime a) (.deleteDowntime b)
  | customNotification (a b : CustomNotification) :
    SameType (.customNotification a) (.customNotification b)
  | delayNotification (a b : Nat) : SameType (.delayNotification a) (.delayNotification b)
  | passiveResult (a b : PassiveResult) : SameType (.passiveResult a) (.passiveResult b)
  | switchObject (a b : ObjectSwitch) : SameType (.switchObject a) (.switchObject b)
  | switchInstance (a b : InstanceSwitch) : SameType (.switchInstance a) (.switchInstance b)
  | disableNotifications (issued expire issued' expire' : Nat) :
    SameType (.disableNotifications issued expire) (.disableNotifications issued' expire')
  | restart : SameType .restart .restart

/-- The word of an acknowledgement says whether it ends at a time. -/
theorem isSome_expire_of_word? {a b : Acknowledgement} {kind : TargetKind} {word : Text}
    (ha : (acknowledge a).word? kind = some word) (hb : (acknowledge b).word? kind = some word) :
    a.expire.isSome = b.expire.isSome := by
  obtain ⟨object, hobject, hword⟩ := Option.map_eq_some_iff.1 ha
  obtain ⟨object', hobject', hword'⟩ := Option.map_eq_some_iff.1 hb
  obtain rfl : object = object' := Option.some.inj (hobject.symm.trans hobject')
  have hending := List.append_cancel_left (hword.trans hword'.symm)
  cases hexpire : a.expire.isSome <;> cases hexpire' : b.expire.isSome <;>
    rw [hexpire, hexpire'] at hending
  · cases hending
  · cases hending

/-- **Commands of one type with one word have equally many arguments.** -/
theorem SameType.length_arguments {command other : Command} (h : SameType command other)
    {kind : TargetKind} {word : Text} (hword : command.word? kind = some word)
    (hother : other.word? kind = some word) :
    command.arguments.length = other.arguments.length := by
  cases h with
  | acknowledge a b =>
    have hlength : ∀ c : Acknowledgement, (Command.acknowledge c).arguments.length =
        if c.expire.isSome then 6 else 5 := by
      intro c
      obtain ⟨comment, sticky, notify, expire⟩ := c
      cases expire <;> rfl
    rw [hlength, hlength, isSome_expire_of_word? hword hother]
  | _ => rfl

/-! ## Main result -/

/-- **The fields of a line** behind its word: the names of the target and the arguments. -/
def fields (command : Command) (target : Target) : List Text :=
  target.names ++ command.arguments

theorem length_names {target target' : Target} (hkind : target.kind = target'.kind) :
    target.names.length = target'.names.length := by
  have hlength : ∀ t : Target, t.names.length =
      match t.kind with
      | .service => 2
      | .global => 0
      | _ => 1 := by
    intro t
    cases t <;> rfl
  rw [hlength, hlength, hkind]

/-- A line that two commands share holds equally many fields for both, in the same text. -/
theorem fields_of_render {command other : Command} {target target' : Target} {line : Text}
    (htype : SameType command other) (hkind : target.kind = target'.kind)
    (hline : command.render target = .ok line) (hline' : other.render target' = .ok line) :
    (command.fields target).length = (other.fields target').length ∧
      (command.fields target).flatMap (';' :: ·) = (other.fields target').flatMap (';' :: ·) := by
  obtain ⟨word, hword, heq⟩ := exists_word_of_render hline
  obtain ⟨word', hword', heq'⟩ := exists_word_of_render hline'
  have hcount : word.count ';' = word'.count ';' := by
    rw [List.count_eq_zero.2 (semicolon_not_mem (isCommandWord_word? hword)),
      List.count_eq_zero.2 (semicolon_not_mem (isCommandWord_word? hword'))]
  -- neither word holds a semicolon, so both end where the first field begins
  obtain ⟨hwords, hfields⟩ := eq_of_append_eq hcount (head_fields _) (head_fields _)
    (heq.symm.trans heq')
  refine ⟨?_, hfields⟩
  rw [← hwords, ← hkind] at hword'
  unfold fields
  rw [List.length_append, List.length_append, length_names hkind,
    htype.length_arguments hword hword']

/-- **What a line says is settled by counting semicolons.** If two commands of one type, for targets
of one kind, share a line, then they share the names of the target and the arguments exactly if
corresponding fields before the last hold equally many semicolons. They do if there is no semicolon
before the last field of either, so no host, service, group or author that is free of semicolons can
pass for something else, whatever the text behind it holds. -/
theorem render_unambiguous {command other : Command} {target target' : Target} {line : Text}
    (htype : SameType command other) (hkind : target.kind = target'.kind)
    (hline : command.render target = .ok line) (hline' : other.render target' = .ok line) :
    ((target.names = target'.names ∧ command.arguments = other.arguments) ↔
      (separators (command.fields target)).dropLast =
        (separators (other.fields target')).dropLast) ∧
    ((∀ field ∈ (command.fields target).dropLast, ';' ∉ field) →
      (∀ field ∈ (other.fields target').dropLast, ';' ∉ field) →
      target.names = target'.names ∧ command.arguments = other.arguments) := by
  obtain ⟨hlength, hfields⟩ := fields_of_render htype hkind hline hline'
  have hcounted : (separators (command.fields target)).dropLast =
      (separators (other.fields target')).dropLast →
      target.names = target'.names ∧ command.arguments = other.arguments := by
    intro hseparators
    exact List.append_inj (fields_eq hlength hseparators hfields) (length_names hkind)
  refine ⟨⟨?_, hcounted⟩, ?_⟩
  · intro hsame
    unfold fields
    rw [hsame.1, hsame.2]
  · intro hfree hfree'
    apply hcounted
    rw [separators_dropLast hfree, separators_dropLast hfree', hlength]

/-- A check's output with performance data in it and the same output with the data apart are two
commands with one line; and it says the same of both. -/
theorem render_unambiguous_performanceData :
    let whole := passiveResult ⟨0, "a;b|c", []⟩
    let parts := passiveResult ⟨0, "a;b", "c"⟩
    let target := Target.service "web" "http"
    SameType whole parts ∧ target.kind = target.kind ∧
      whole.render target = .ok "PROCESS_SERVICE_CHECK_RESULT;web;http;0;a;b|c" ∧
      parts.render target = .ok "PROCESS_SERVICE_CHECK_RESULT;web;http;0;a;b|c" ∧
      (∀ field ∈ (whole.fields target).dropLast, ';' ∉ field) ∧
      (∀ field ∈ (parts.fields target).dropLast, ';' ∉ field) ∧
      target.names = target.names ∧ whole.arguments = parts.arguments := by
  intro whole parts target
  have htype : SameType whole parts := .passiveResult _ _
  have hwhole : whole.render target = .ok "PROCESS_SERVICE_CHECK_RESULT;web;http;0;a;b|c" := rfl
  have hparts : parts.render target = .ok "PROCESS_SERVICE_CHECK_RESULT;web;http;0;a;b|c" := rfl
  have hfree : ∀ field ∈ (whole.fields target).dropLast, ';' ∉ field := by decide
  have hfree' : ∀ field ∈ (parts.fields target).dropLast, ';' ∉ field := by decide
  exact ⟨htype, rfl, hwhole, hparts, hfree, hfree',
    (render_unambiguous htype rfl hwhole hparts).2 hfree hfree'⟩

/-- **A semicolon in an author moves what follows.** Two comments for one host, with different
authors and different texts, are one line. -/
theorem line_of_two_comments :
    SameType (addComment ⟨"a;b", "c", false⟩) (addComment ⟨"a", "b;c", false⟩) ∧
      (addComment ⟨"a;b", "c", false⟩).render (.host "web") =
        .ok "ADD_HOST_COMMENT;web;0;a;b;c" ∧
      (addComment ⟨"a", "b;c", false⟩).render (.host "web") =
        .ok "ADD_HOST_COMMENT;web;0;a;b;c" ∧
      (addComment ⟨"a;b", "c", false⟩).arguments ≠ (addComment ⟨"a", "b;c", false⟩).arguments :=
  ⟨.addComment _ _, rfl, rfl, by decide⟩

end Command

end MonitorControl
