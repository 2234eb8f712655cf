import Mathlib.Data.List.Forall2

/-! Texts that are woven of contents, each once and in order, and of frames between them. -/

namespace Manuscript

/-- A text is made of contents in their order, with frames before, between and behind them. -/
inductive Woven (Frame : String → Prop) : List String → String → Prop
  /-- Nothing is woven of nothing. -/
  | nil : Woven Frame [] ""
  /-- A frame stands in front. -/
  | frame {text rest : String} {contents : List String} :
    Frame text → Woven Frame contents rest → Woven Frame contents (text ++ rest)
  /-- The next content stands in front. -/
  | content {text rest : String} {contents : List String} :
    Woven Frame contents rest → Woven Frame (text :: contents) (text ++ rest)

variable {Frame : String → Prop}

/-- Woven texts one after another are woven. -/
theorem Woven.append {contents others : List String} {text other : String}
    (first : Woven Frame contents text) (last : Woven Frame others other) :
    Woven Frame (contents ++ others) (text ++ other) := by
  -- The last frame or content of the first text stands in front of the others.
  induction first with
  | nil => simpa using last
  | frame frame _ ih =>
    rw [String.append_assoc]
    exact .frame frame ih
  | content _ ih =>
    rw [String.append_assoc]
    exact .content ih

/-- A frame by itself holds no content. -/
theorem woven_frame {text : String} (frame : Frame text) : Woven Frame [] text := by
  simpa using Woven.frame frame .nil

/-- A content by itself is woven of itself. -/
theorem woven_content (text : String) : Woven Frame [text] text := by
  have own : Woven Frame [text] (text ++ "") := .content .nil
  simpa using own

/-- Texts in a row with frames between them are woven of all their contents. -/
theorem woven_intercalate {α : Type} {held : α → List String} {separator : String}
    (between : Frame separator) {items : List α} {texts : List String}
    (each : List.Forall₂ (fun item text => Woven Frame (held item) text) items texts) :
    Woven Frame (items.flatMap held) (separator.intercalate texts) := by
  -- A separator stands in front of all texts but the first.
  induction each with
  | nil => exact .nil
  | cons here below ih =>
    rw [List.flatMap_cons]
    cases below with
    | nil => simpa using here
    | cons second below =>
      rw [String.intercalate_cons_cons]
      have front := here.append (woven_frame between)
      rw [List.append_nil] at front
      exact front.append ih

/-- Each content stands in the text that is woven of it. -/
theorem Woven.infix_of_mem {contents : List String} {text : String}
    (woven : Woven Frame contents text) {content : String} (member : content ∈ contents) :
    content.toList <:+: text.toList := by
  -- A frame holds no content, and a content stands in front of what is woven behind it.
  induction woven with
  | nil => exact nomatch member
  | frame _ _ ih =>
    rw [String.toList_append]
    exact (ih member).trans (List.suffix_append ..).isInfix
  | content _ ih =>
    rw [String.toList_append]
    rcases List.mem_cons.mp member with rfl | later
    · exact (List.prefix_append ..).isInfix
    · exact (ih later).trans (List.suffix_append ..).isInfix

end Manuscript
