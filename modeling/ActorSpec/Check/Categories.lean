import ActorSpec.Value.Display

/-!
# Store categories

At most three categories, each one of a fixed list.
-/

namespace ActorSpec.Categories

def maximum : Nat := 3

def known : List String := [
  "AI", "AGENTS", "AUTOMATION", "BUSINESS", "COVID_19", "DEVELOPER_EXAMPLES", "DEVELOPER_TOOLS",
  "ECOMMERCE", "FOR_CREATORS", "GAMES", "JOBS", "LEAD_GENERATION", "MARKETING", "NEWS", "SEO_TOOLS",
  "SOCIAL_MEDIA", "TRAVEL", "VIDEOS", "REAL_ESTATE", "SPORTS", "EDUCATION", "INTEGRATIONS", "OTHER",
  "OPEN_SOURCE", "MCP_SERVERS"]

def isKnown : Value → Bool
  | .scalar (.str s) => known.contains s
  | _ => false

/-- What is wrong with a list of categories. -/
inductive Fault where
  | notAList
  | tooMany
  | unknown (categories : List Value)

def joined (parts : List String) : String := String.intercalate ", " parts

def Fault.message : Fault → String
  | .notAList => "Categories must be an array of strings"
  | .tooMany => "Maximum of " ++ toString maximum ++ " categories allowed"
  | .unknown categories =>
    "Invalid categories: " ++ joined (categories.map Value.display) ++ ". Valid categories are: "
      ++ joined known

/-- The values that the message names. -/
def Fault.named : Fault → List Value
  | .unknown categories => categories
  | .notAList | .tooMany => []

def check : Value → Option Fault
  | .list categories =>
    if maximum < categories.length then some .tooMany
    else
      let unknown := categories.filter (!isKnown ·)
      if unknown.isEmpty then none else some (.unknown unknown)
  | _ => some .notAList

end ActorSpec.Categories
