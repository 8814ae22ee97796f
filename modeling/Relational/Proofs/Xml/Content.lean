import Relational.Proofs.Xml.Markup

namespace Relational.Xml

-- What stands one after the other inside an element. An element without content is written with one
-- tag or with two.
inductive Content where
  | done
  | text (t : CharData) (rest : Content)
  | comment (c : Comment) (rest : Content)
  | empty (o : Opening) (rest : Content)
  | element (o : Opening) (inside rest : Content)

namespace Content

def chars : Content → List Char
  | done => []
  | text t rest => t.chars ++ rest.chars
  | comment c rest => '<' :: '!' :: '-' :: '-' :: (c.chars ++ '-' :: '-' :: '>' :: rest.chars)
  | empty o rest => '<' :: (o.chars ++ '/' :: '>' :: rest.chars)
  | element o inside rest =>
    '<' :: (o.chars ++ '>' :: (inside.chars ++ '<' :: '/' :: (o.name.chars ++ '>' :: rest.chars)))

def events : Content → List Event
  | done => []
  | text _ rest | comment _ rest => rest.events
  | empty o rest => .empty o.tag :: rest.events
  | element o inside rest => .start o.tag :: (inside.events ++ .close o.tag.name :: rest.events)

theorem eventsFrom_chars (content : Content) (position : Nat) (opened : List String)
    (more : List Char) :
    ∃ next, eventsFrom position opened (content.chars ++ more) =
      content.events ++ eventsFrom next opened more := by
  induction content generalizing position opened more
  case done => exact ⟨position, rfl⟩
  case text t rest hi =>
    have ⟨q, hq⟩ := hi (position + Text.byteLength t.chars) opened more
    exact ⟨q, by rw [chars, List.append_assoc, eventsFrom_text t.plain, hq, events]⟩
  case comment c rest hi =>
    have ⟨p, hp⟩ := eventsFrom_comment position opened c (rest.chars ++ more)
    have ⟨q, hq⟩ := hi p opened more
    refine ⟨q, ?_⟩
    simp only [chars, List.cons_append, List.append_assoc]
    rw [hp, hq, events]
  case empty o rest hi =>
    have ⟨p, hp⟩ := eventsFrom_empty position opened (rest.chars ++ more) o
    have ⟨q, hq⟩ := hi p opened more
    refine ⟨q, ?_⟩
    simp only [chars, List.cons_append, List.append_assoc]
    rw [hp, hq, events, List.cons_append]
  case element o inside rest hi hr =>
    have ⟨p, hp⟩ := eventsFrom_start position opened
      (inside.chars ++ '<' :: '/' :: (o.name.chars ++ '>' :: (rest.chars ++ more))) o
    have ⟨q, hq⟩ := hi p (o.tag.name :: opened)
      ('<' :: '/' :: (o.name.chars ++ '>' :: (rest.chars ++ more)))
    have ⟨p', hp'⟩ := eventsFrom_endTag q opened (rest.chars ++ more) o.name
    have ⟨q', hq'⟩ := hr p' opened more
    refine ⟨q', ?_⟩
    simp only [chars, List.cons_append, List.append_assoc]
    rw [hp, hq, Opening.tag, hp', hq', events]
    simp [Opening.tag]

theorem events_chars (content : Content) : Xml.events content.chars = content.events := by
  have ⟨next, h⟩ := content.eventsFrom_chars 0 [] []
  rw [Xml.events, ← List.append_nil content.chars, h, eventsFrom]
  simp

end Content

end Relational.Xml
