import Promptbook.Schema.Records

/-!
# The schemas of the built-in prompts

Each built-in prompt has a schema for its inputs, which ignores keys that it does not know, and one for its
answer.
-/

namespace Promptbook.Schema

/-- A text that is not empty. -/
def someText : Shape := .text 1 none

/-- A text with a greatest length. -/
def shortText (most : Nat) : Shape := .text 0 (some most)

/-- The inputs of business research. -/
def researchBusinessInput : Shape :=
  .record "ResearchBusinessInput" .ignored [
    required "business_name" someText,
    defaulted "business_phone" (.text "") anyText,
    defaulted "business_address" (.text "") anyText,
    defaulted "google_place_id" (.text "") anyText,
    defaulted "additional_context" (.text "") anyText]

/-- The opening hours of a day. -/
def businessHours : Shape :=
  .record "BusinessHours" .ignored [required "day" anyText, required "hours" anyText]

/-- A question with its answer. -/
def faqEntry : Shape :=
  .record "FaqEntry" .ignored [required "question" anyText, required "answer" anyText]

/-- The answer of business research. -/
def researchBusinessOutput : Shape :=
  .record "ResearchBusinessOutput" .ignored [
    required "business_name" anyText,
    required "tagline" (shortText 60),
    required "description" anyText,
    required "services" (.list anyText 3 (some 8)),
    required "hours" (.list businessHours 0 none),
    required "faq" (.list faqEntry 3 (some 5)),
    required "seo_title" (shortText 60),
    required "seo_description" (shortText 160)]

/-- The inputs of site generation. -/
def generateSiteInput : Shape :=
  .record "GenerateSiteInput" .ignored [required "research_data" someText]

/-- The answer of site generation: an HTML document. -/
def generateSiteOutput : Shape :=
  .marked ["<!DOCTYPE html>", "<!doctype html>"] "Output must be a valid HTML document"

/-- The inputs of quality scoring. -/
def scoreQualityInput : Shape :=
  .record "ScoreQualityInput" .ignored [required "html_content" someText]

/-- The scores of a site. -/
def qualityScores : Shape :=
  .record "QualityScores" .ignored [
    required "accuracy" .score,
    required "completeness" .score,
    required "professionalism" .score,
    required "seo" .score,
    required "accessibility" .score]

/-- The answer of quality scoring. -/
def scoreQualityOutput : Shape :=
  .record "ScoreQualityOutput" .ignored [
    required "scores" qualityScores,
    required "overall" .score,
    required "issues" textList,
    required "suggestions" textList]

/-- The tone of a friendly text. -/
def friendlyTone : Choice := ⟨"Tone", "FRIENDLY", "friendly"⟩

/-- The tones of marketing copy. -/
def tones : List Choice :=
  [friendlyTone, ⟨"Tone", "PREMIUM", "premium"⟩, ⟨"Tone", "NO_NONSENSE", "no-nonsense"⟩]

/-- The inputs of marketing copy. -/
def siteCopyInput : Shape :=
  .record "SiteCopyInput" .ignored [
    requiredAs "business_name" "businessName" someText,
    required "city" someText,
    defaulted "services" (.list []) textList,
    defaulted "tone" (.choice friendlyTone) (.choice tones)]

/-- The answer of marketing copy: Markdown with headings. -/
def siteCopyOutput : Shape :=
  .marked ["#"] "Output must contain Markdown headings"

/-- The input schemas by name. -/
def inputShapes : Entries Shape :=
  [("ResearchBusinessInput", researchBusinessInput), ("GenerateSiteInput", generateSiteInput),
    ("ScoreQualityInput", scoreQualityInput), ("SiteCopyInput", siteCopyInput)]

/-- The answer schemas by name. -/
def outputShapes : Entries Shape :=
  [("ResearchBusinessOutput", researchBusinessOutput), ("GenerateSiteOutput", generateSiteOutput),
    ("ScoreQualityOutput", scoreQualityOutput), ("SiteCopyOutput", siteCopyOutput)]

end Promptbook.Schema
