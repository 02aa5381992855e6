import DateTemplate.Proofs.Template.Append
import DateTemplate.Proofs.Template.Substitution

set_option autoImplicit false

/-!
# Rendering line by line

A token stands on one line, so what one line opens no other line closes. Main statements:
`ofText_append_line_feed`, a text can be cut up line by line; `render_append_line_feed`, the two sides of
a line feed are rendered each for itself.
-/

namespace DateTemplate

namespace Template

/-- A text with a line feed is cut up in two: no token reaches over the line feed. -/
theorem ofText_append_line_feed (above below : Text) :
    ofText (above ++ '\n' :: below) = ofText above ++ (ofText below).prepend ['\n'] := by
  have hlast := (leftmost_ofText above).quiet_lastGap
  have hgap : Quiet ['\n'] below := quiet_of_not_mem (by decide) below
  have hfeed : ofText ('\n' :: below) = (ofText below).prepend ['\n'] := ofText_append hgap
  rw [ofText_append_of_quiet (quiet_line_feed_iff.2 hlast), hfeed]

end Template

namespace Engine

section

variable (engine : Engine) (context : Context)

theorem text_render_line_feed (above below : Text) :
    (engine.render context (above ++ '\n' :: below)).text =
      (engine.render context above).text ++ '\n' :: (engine.render context below).text := by
  rw [render, Template.ofText_append_line_feed, Template.fill_append, Template.fill_prepend]
  rfl

theorem failures_render_line_feed (above below : Text) :
    (engine.render context (above ++ '\n' :: below)).failures =
      (engine.render context above).failures ++ (engine.render context below).failures := by
  rw [failures_render, failures_render, failures_render, Template.ofText_append_line_feed,
    Template.tokens_append, Template.tokens_prepend, List.filterMap_append]

/-- **Lines are rendered each for itself.** Around a line feed, the rendered text is what the two
sides are rendered as, and the failures and the tokens are those of the two sides in turn, however
the braces on either side are left open or unmatched. -/
theorem render_append_line_feed (above below : Text) :
    (engine.render context (above ++ '\n' :: below)).text =
      (engine.render context above).text ++ '\n' :: (engine.render context below).text ∧
    (engine.render context (above ++ '\n' :: below)).failures =
      (engine.render context above).failures ++ (engine.render context below).failures ∧
    Template.extract (above ++ '\n' :: below) =
      Template.extract above ++ Template.extract below := by
  refine ⟨text_render_line_feed engine context above below,
    failures_render_line_feed engine context above below, ?_⟩
  rw [Template.extract, Template.ofText_append_line_feed, Template.tokens_append,
    Template.tokens_prepend, List.map_append]
  rfl

end

/-- Braces that would close an opening on the line above close nothing. -/
example :
    ((mk .standard .empty).render (Bindings.empty.insert "A".toList "1".toList)
      "{{A}} \x7b\x7b A\n A \x7d\x7d {{A}}".toList).text =
        "1 \x7b\x7b A\n A \x7d\x7d 1".toList := by decide +kernel

end Engine

end DateTemplate
