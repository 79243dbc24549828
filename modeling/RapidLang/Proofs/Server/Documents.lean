import Mathlib.Data.List.Induction
import RapidLang.Server.Session

/-!
# Open documents and their history

What a session knows about a document is decided by the last text that the editor reported for it,
unless the document was closed since. How that text came to be, and what happened to other
documents, leaves no trace.
-/

set_option autoImplicit false

namespace RapidLang

/-! ## What notifications say about documents -/

namespace Notification

/-- The document that the notification is about. -/
def uri? : Notification → Option String
  | .opened uri _ | .changed uri _ | .saved uri _ | .closed uri => some uri
  | .initialized | .exit => none

/-- The text that the notification reports: of several changes the last one counts. -/
def text? : Notification → Option String
  | .opened _ text => some text
  | .changed _ texts => texts.getLast?
  | .saved _ text => text
  | .initialized | .closed _ | .exit => none

/-- The notification reports a text of the document. -/
def Reports (notification : Notification) (uri text : String) : Prop :=
  notification.uri? = some uri ∧ notification.text? = some text

/-- The notification neither reports a text of the document nor closes it. -/
def Spares (notification : Notification) (uri : String) : Prop :=
  (∀ text, ¬notification.Reports uri text) ∧ notification ≠ .closed uri

/-- The notification is about the document. -/
def concerns (uri : String) (notification : Notification) : Bool :=
  notification.uri? == some uri

/-- The diagnostics that have to be sent when the notification arrives: those of a fresh analysis
of the text that it reports, or none if it closes a document. -/
def duties : Notification → List Announcement
  | .closed uri => [.diagnostics uri []]
  | notification =>
    match notification.uri?, notification.text? with
    | some uri, some text => [.diagnostics uri (Analysis.ofString text).diagnostics]
    | _, _ => []

end Notification

/-- The notifications, in the order in which they came, have last reported the text for the document
and not closed it since. -/
def Leaves (history : List Notification) (uri text : String) : Prop :=
  ∃ before last after, history = before ++ last :: after ∧
    last.Reports uri text ∧ ∀ notification ∈ after, notification.Spares uri

/-- The document that a request is about. -/
def Request.uri? : Request → Option String
  | .hover caret | .completion caret | .definition caret | .references caret _ => some caret.uri
  | .formatting uri _ _ | .outline uri | .semanticTokens uri => some uri
  | .handshake | .shutdown => none

section History

variable {history : List Notification} {notification : Notification} {uri text : String}

theorem not_leaves_nil : ¬Leaves [] uri text := by
  rintro ⟨before, last, after, split, _⟩
  exact absurd split.symm (by simp)

theorem leaves_append_singleton :
    Leaves (history ++ [notification]) uri text ↔
      notification.Reports uri text ∨ notification.Spares uri ∧ Leaves history uri text := by
  constructor
  · rintro ⟨before, last, after, split, reports, spares⟩
    cases after using List.reverseRecOn with
    | nil =>
        obtain ⟨_, same⟩ := List.append_inj' split rfl
        cases same
        exact .inl reports
    | append_singleton after newest =>
        rw [← List.cons_append, ← List.append_assoc] at split
        obtain ⟨rfl, same⟩ := List.append_inj' split rfl
        cases same
        refine .inr ⟨spares _ (by simp), before, last, after, rfl, reports, ?_⟩
        exact fun other member => spares other (List.mem_append_left _ member)
  · rintro (reports | ⟨spares, before, last, after, rfl, reports, others⟩)
    · exact ⟨history, notification, [], rfl, reports, by simp⟩
    · refine ⟨before, last, after ++ [notification], by simp, reports, ?_⟩
      intro other member
      rcases List.mem_append.mp member with member | member
      · exact others other member
      · rwa [List.mem_singleton.mp member]

theorem Notification.Reports.duties (reports : notification.Reports uri text) :
    notification.duties = [.diagnostics uri (Analysis.ofString text).diagnostics] := by
  obtain ⟨about, reported⟩ := reports
  cases notification with
  | closed | initialized | exit => cases reported
  | _ => simp only [Notification.duties, about, reported]

theorem Notification.Spares.duties (spares : notification.Spares uri)
    (about : notification.uri? = some uri) : notification.duties = [] := by
  have silent : notification.text? = none :=
    Option.eq_none_iff_forall_ne_some.mpr fun text reported => spares.1 text ⟨about, reported⟩
  cases notification with
  | closed _ => cases about; exact absurd rfl spares.2
  | _ => simp only [Notification.duties, about, silent]

theorem Notification.reports_or_closed (notification : Notification)
    (touched : ¬notification.Spares uri) :
    (∃ text, notification.Reports uri text) ∨ notification = .closed uri := by
  rw [Spares, not_and_or, not_forall_not, not_not] at touched
  exact touched

theorem Notification.spares_of_not_concerns (other : ¬notification.concerns uri) :
    notification.Spares uri := by
  refine ⟨fun text reports => other ?_, ?_⟩
  · simp [concerns, reports.1]
  · rintro rfl
    exact other (by simp [concerns, uri?])

/-- What happens to other documents does not matter. -/
theorem leaves_filter_concerns :
    Leaves (history.filter (Notification.concerns uri)) uri text ↔ Leaves history uri text := by
  induction history using List.reverseRecOn with
  | nil => rfl
  | append_singleton history notification ih =>
      rw [List.filter_append, leaves_append_singleton]
      by_cases about : notification.concerns uri
      · rw [List.filter_cons_of_pos about, List.filter_nil, leaves_append_singleton, ih]
      · have spares := Notification.spares_of_not_concerns about
        rw [List.filter_cons_of_neg about, List.filter_nil, List.append_nil, ih]
        exact ⟨fun leaves => .inr ⟨spares, leaves⟩,
          Or.rec (fun reports => absurd reports (spares.1 text)) And.right⟩

end History

/-! ## What a session does with them -/

namespace Session

variable {session : Session} {notification : Notification} {uri other text : String}

theorem document?_close :
    (session.close other).document? uri =
      if uri = other then none else session.document? uri := by
  obtain ⟨phase, documents⟩ := session
  simp only [close, document?]
  induction documents with
  | nil => simp
  | cons entry documents ih =>
      obtain ⟨name, document⟩ := entry
      by_cases dropped : name = other
      · rw [List.filter_cons_of_neg (by simp [dropped]), ih, dropped, List.lookup_cons]
        by_cases same : uri = other
        · rw [if_pos same, if_pos same]
        · rw [if_neg same, if_neg same, beq_eq_false_iff_ne.mpr same]
      · rw [List.filter_cons_of_pos (by simp [dropped]), List.lookup_cons, List.lookup_cons, ih]
        by_cases same : uri = other
        · rw [if_pos same, if_pos same, same, beq_eq_false_iff_ne.mpr (Ne.symm dropped)]
        · rw [if_neg same, if_neg same]

theorem document?_store (document : Document) :
    (session.store other document).document? uri =
      if uri = other then some document else session.document? uri := by
  have kept : (session.close other).document? uri = _ := document?_close
  rw [document?] at kept ⊢
  rw [store, List.lookup_cons]
  by_cases same : uri = other
  · rw [if_pos same, beq_iff_eq.mpr same]
  · rw [if_neg same] at kept ⊢
    rw [beq_eq_false_iff_ne.mpr same, kept]

/-- Whether the document was open before does not matter when a text of it is reported. -/
theorem publish_eq (session : Session) (uri text : String) :
    session.publish uri text =
      (session.store uri (.ofString text),
        [.diagnostics uri (Analysis.ofString text).diagnostics]) := by
  unfold publish
  cases session.document? uri with
  | none => rfl
  | some document => rfl

/-- A notification about a document has a text of it published, or has it forgotten, or leaves
everything as it is. -/
theorem accept_cases (session : Session) (about : notification.uri? = some other) :
    (∃ text, notification.Reports other text ∧
        session.accept notification = session.publish other text) ∨
      notification = .closed other ∨
      notification.Spares other ∧ session.accept notification = (session, []) := by
  cases notification with
  | initialized | exit => cases about
  | opened _ text => cases about; exact .inl ⟨text, ⟨rfl, rfl⟩, rfl⟩
  | closed _ => cases about; exact .inr (.inl rfl)
  | changed _ texts =>
      cases about
      cases last : texts.getLast? with
      | some text => exact .inl ⟨text, ⟨rfl, last⟩, by simp only [accept, last]⟩
      | none =>
          have silent : ∀ text, ¬(Notification.changed other texts).Reports other text :=
            fun text reports => nomatch last.symm.trans reports.2
          exact .inr (.inr ⟨⟨silent, nofun⟩, by simp only [accept, last]⟩)
  | saved _ text =>
      cases about
      cases text with
      | some text => exact .inl ⟨text, ⟨rfl, rfl⟩, rfl⟩
      | none => exact .inr (.inr ⟨⟨fun _ reports => (nomatch reports.2), nofun⟩, rfl⟩)

/-- While nothing but documents is spoken of, the session goes on. -/
theorem phase_accept (session : Session) (about : notification.uri? = some other) :
    (session.accept notification).1.phase = session.phase := by
  rcases session.accept_cases about with ⟨text, _, accepted⟩ | rfl | ⟨_, accepted⟩
  · rw [accepted, publish_eq]
    rfl
  · rfl
  · rw [accepted]

theorem announcements_accept (session : Session) (about : notification.uri? = some other) :
    (session.accept notification).2 = notification.duties := by
  rcases session.accept_cases about with ⟨text, reports, accepted⟩ | rfl | ⟨spares, accepted⟩
  · rw [accepted, publish_eq, reports.duties]
  · rfl
  · rw [accepted, spares.duties about]

/-- The document whose text is reported is as if it had just been opened. -/
theorem document?_accept_of_reports (session : Session) (reports : notification.Reports uri text) :
    (session.accept notification).1.document? uri = some (.ofString text) := by
  rcases session.accept_cases reports.1 with ⟨newest, same, accepted⟩ | rfl | ⟨spares, _⟩
  · cases same.2.symm.trans reports.2
    rw [accepted, publish_eq, document?_store, if_pos rfl]
  · cases reports.2
  · exact absurd reports (spares.1 text)

theorem document?_accept_of_closed (session : Session) :
    (session.accept (.closed uri)).1.document? uri = none := by
  rw [accept, document?_close, if_pos rfl]

theorem document?_accept_of_spares (session : Session) (about : notification.uri? = some other)
    (spares : notification.Spares uri) :
    (session.accept notification).1.document? uri = session.document? uri := by
  rcases session.accept_cases about with ⟨text, reports, accepted⟩ | rfl | ⟨_, accepted⟩
  · have apart : uri ≠ other := by
      rintro rfl
      exact spares.1 text reports
    rw [accepted, publish_eq, document?_store, if_neg apart]
  · have apart : uri ≠ other := by
      rintro rfl
      exact spares.2 rfl
    rw [accept, document?_close, if_neg apart]
  · rw [accepted]

/-! ## Whole histories -/

/-- The session after some notifications, with all that was announced. -/
def hear (session : Session) : List Notification → Session × List Announcement
  | [] => (session, [])
  | first :: rest =>
    let next := session.notify first
    let last := next.1.hear rest
    (last.1, next.2 ++ last.2)

theorem hear_append (session : Session) (before after : List Notification) :
    session.hear (before ++ after) =
      (((session.hear before).1.hear after).1,
        (session.hear before).2 ++ ((session.hear before).1.hear after).2) := by
  induction before generalizing session with
  | nil => rfl
  | cons first before ih =>
      simp only [List.cons_append, hear, ih, List.append_assoc]

variable {history others : List Notification}

theorem phase_hear (running : session.phase = .running)
    (about : ∀ notification ∈ history, notification.uri?.isSome) :
    (session.hear history).1.phase = .running := by
  induction history generalizing session with
  | nil => exact running
  | cons first rest ih =>
      obtain ⟨known, about⟩ := List.forall_mem_cons.mp about
      obtain ⟨uri, known⟩ := Option.isSome_iff_exists.mp known
      have goesOn : (session.notify first).1.phase = .running := by
        simp only [notify, running]
        exact (session.phase_accept known).trans running
      exact ih goesOn about

/-- The newest notification is accepted by a session that is still running. -/
theorem hear_concat (running : session.phase = .running)
    (about : ∀ notification ∈ history, notification.uri?.isSome) (notification : Notification) :
    session.hear (history ++ [notification]) =
      (((session.hear history).1.accept notification).1,
        (session.hear history).2 ++ ((session.hear history).1.accept notification).2) := by
  have accepts : (session.hear history).1.notify notification =
      (session.hear history).1.accept notification := by
    simp only [notify, phase_hear running about]
  rw [hear_append, hear, hear, List.append_nil, accepts]

theorem announcements_hear (running : session.phase = .running)
    (about : ∀ notification ∈ history, notification.uri?.isSome) :
    (session.hear history).2 = history.flatMap Notification.duties := by
  induction history using List.reverseRecOn with
  | nil => rfl
  | append_singleton history notification ih =>
      rw [List.forall_mem_append, List.forall_mem_singleton] at about
      obtain ⟨uri, known⟩ := Option.isSome_iff_exists.mp about.2
      rw [hear_concat running about.1, ih about.1, announcements_accept _ known,
        List.flatMap_append, List.flatMap_singleton]

theorem document?_hear (running : session.phase = .running) (unopened : session.documents = [])
    (about : ∀ notification ∈ history, notification.uri?.isSome) (document : Document) :
    (session.hear history).1.document? uri = some document ↔
      ∃ text, Leaves history uri text ∧ document = .ofString text := by
  induction history using List.reverseRecOn with
  | nil =>
      rw [hear, document?, unopened, List.lookup_nil]
      exact ⟨nofun, fun ⟨_, leaves, _⟩ => absurd leaves not_leaves_nil⟩
  | append_singleton history notification ih =>
      rw [List.forall_mem_append, List.forall_mem_singleton] at about
      obtain ⟨name, known⟩ := Option.isSome_iff_exists.mp about.2
      rw [hear_concat running about.1]
      simp only [leaves_append_singleton]
      by_cases spares : notification.Spares uri
      · rw [document?_accept_of_spares _ known spares, ih about.1]
        simp only [spares.1, spares, false_or, true_and]
      · simp only [spares, false_and, or_false]
        rcases notification.reports_or_closed spares with ⟨text, reports⟩ | rfl
        · rw [document?_accept_of_reports _ reports, Option.some_inj]
          constructor
          · rintro rfl
            exact ⟨text, reports, rfl⟩
          · rintro ⟨other, reports', rfl⟩
            cases reports.2.symm.trans reports'.2
            rfl
        · rw [document?_accept_of_closed]
          exact ⟨nofun, fun ⟨_, reports, _⟩ => nomatch reports.2⟩

/-! ## Answers -/

variable {request : Request}

/-- A running session answers a request about a document from that document alone. -/
theorem request_congr {first second : Session} (running : first.phase = .running)
    (running' : second.phase = .running) (about : request.uri? = some uri)
    (same : first.document? uri = second.document? uri) :
    (first.request request).2 = (second.request request).2 := by
  have answers : ∀ answer? : Document → Option Answer,
      first.about uri answer? = second.about uri answer? := by
    intro answer?
    rw [Session.about, Session.about, same]
  cases request with
  | handshake | shutdown => cases about
  | _ =>
      cases about
      simp only [Session.request, running, running', answer, answers]

/-- The documents of a session that began without any follow the history of notifications. Each
document is the one of the text that was last reported for it, if it was not closed since; answers
about a document depend on that text alone, and not on what happened to other documents; and each
notification makes exactly its own diagnostics known. -/
theorem documents_follow_history (running : session.phase = .running)
    (unopened : session.documents = [])
    (about : ∀ notification ∈ history, notification.uri?.isSome) :
    (∀ uri document, (session.hear history).1.document? uri = some document ↔
        ∃ text, Leaves history uri text ∧ document = .ofString text) ∧
      (∀ uri request, request.uri? = some uri →
        (∀ other, (∀ notification ∈ other, notification.uri?.isSome) →
          (∀ text, Leaves other uri text ↔ Leaves history uri text) →
          ((session.hear other).1.request request).2 =
            ((session.hear history).1.request request).2) ∧
        ((session.hear (history.filter (Notification.concerns uri))).1.request request).2 =
          ((session.hear history).1.request request).2) ∧
      (session.hear history).2 = history.flatMap Notification.duties := by
  have answers : ∀ uri request, request.uri? = some uri →
      ∀ other, (∀ notification ∈ other, notification.uri?.isSome) →
        (∀ text, Leaves other uri text ↔ Leaves history uri text) →
        ((session.hear other).1.request request).2 =
          ((session.hear history).1.request request).2 := by
    intro uri request asks other about' same
    refine request_congr (phase_hear running about') (phase_hear running about) asks ?_
    refine Option.ext fun document => ?_
    rw [document?_hear running unopened about', document?_hear running unopened about]
    simp only [same]
  refine ⟨fun uri => document?_hear running unopened about, fun uri request asks => ?_,
    announcements_hear running about⟩
  refine ⟨answers uri request asks, answers uri request asks _ ?_ fun text => leaves_filter_concerns⟩
  exact fun notification member => about notification ((List.mem_filter.mp member).1)

/-- A document is opened, another one is changed and closed, and the first one is saved without its
text. -/
theorem documents_follow_history_of_twoDocuments :
    let session : Session := ⟨.running, []⟩
    let history : List Notification :=
      [.opened "a.mod" "MODULE A", .changed "b.mod" ["", "ENDMODULE"], .closed "b.mod",
        .saved "a.mod" none]
    (∀ notification ∈ history, notification.uri?.isSome) ∧
      (session.hear history).1.document? "a.mod" = some (.ofString "MODULE A") ∧
      (session.hear history).2 =
        [.diagnostics "a.mod" (Analysis.ofString "MODULE A").diagnostics,
          .diagnostics "b.mod" (Analysis.ofString "ENDMODULE").diagnostics,
          .diagnostics "b.mod" []] := by
  intro session history
  have running : session.phase = .running := rfl
  have about : ∀ notification ∈ history, notification.uri?.isSome := by decide
  obtain ⟨kept, _, announced⟩ := documents_follow_history running rfl about
  have leaves : Leaves history "a.mod" "MODULE A" := by
    refine ⟨[], .opened "a.mod" "MODULE A", _, rfl, ⟨rfl, rfl⟩, fun notification member => ?_⟩
    simp only [List.mem_cons, List.not_mem_nil, or_false] at member
    rcases member with rfl | rfl | rfl
    · exact Notification.spares_of_not_concerns (by decide)
    · exact Notification.spares_of_not_concerns (by decide)
    · exact ⟨fun _ reports => (nomatch reports.2), nofun⟩
  exact ⟨about, (kept "a.mod" _).mpr ⟨_, leaves, rfl⟩, announced⟩

end Session

end RapidLang
