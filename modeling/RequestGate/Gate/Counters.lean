import RequestGate.Gate.Basic

/-!
# Counters

What a gate counts, as lines of text: the requests by outcome, the failing places by name, and how
many durations were recorded.  Counters that stand at zero are not written.
-/

namespace RequestGate
namespace Counters

/-- The counters with the events they count, in ascending order of their text. -/
def all : List (String × Event) :=
  [("gate_rejections_total\x7blocation=\"body\"\x7d", .rejection .body),
    ("gate_rejections_total\x7blocation=\"formData\"\x7d", .rejection .formData),
    ("gate_rejections_total\x7blocation=\"header\"\x7d", .rejection .header),
    ("gate_rejections_total\x7blocation=\"path\"\x7d", .rejection .path),
    ("gate_rejections_total\x7blocation=\"query\"\x7d", .rejection .query),
    ("gate_request_duration_seconds_count", .duration),
    ("gate_requests_total\x7boutcome=\"passed\"\x7d", .passed),
    ("gate_requests_total\x7boutcome=\"rejected\"\x7d", .rejected),
    ("gate_requests_total\x7boutcome=\"validated\"\x7d", .validated)]

/-- The lines for what has been counted. -/
def lines (events : List Event) : List String :=
  (all.filter fun counter => events.contains counter.2).map fun counter =>
    counter.1 ++ " " ++ toString (events.count counter.2)

end Counters
end RequestGate
