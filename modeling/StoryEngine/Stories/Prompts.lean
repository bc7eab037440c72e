import StoryEngine.Schema.Rows

namespace StoryEngine.Stories

open Schema

/-! # The taxonomy of topics -/

/-- The topics with their labels, from the awareness of a customer to the segments of the
market. -/
def topicLabels : List (String × String) := [
  ("industry_trend_validation", "Industry Trend Validation"),
  ("problem_challenge_identification", "Problem/Challenge Identification"),
  ("digital_transformation_modernization", "Digital Transformation"),
  ("regulatory_compliance_challenges", "Regulatory & Compliance"),
  ("market_expansion", "Market Expansion"),
  ("thought_leadership_cocreation", "Thought Leadership Co-creation"),
  ("product_capability_deepdive", "Product Capability Deep-dive"),
  ("competitive_displacement", "Competitive Displacement"),
  ("integration_interoperability", "Integration & Interoperability"),
  ("implementation_onboarding", "Implementation & Onboarding"),
  ("security_compliance_governance", "Security & Data Governance"),
  ("customization_configurability", "Customization & Configurability"),
  ("multi_product_cross_sell", "Multi-product / Cross-sell"),
  ("partner_ecosystem_solution", "Partner / Ecosystem Solutions"),
  ("total_cost_of_ownership", "Total Cost of Ownership"),
  ("pilot_to_production", "Pilot to Production"),
  ("roi_financial_outcomes", "ROI & Financial Outcomes"),
  ("quantified_operational_metrics", "Quantified Operational Metrics"),
  ("executive_strategic_impact", "Executive Strategic Impact"),
  ("risk_mitigation_continuity", "Risk Mitigation & Continuity"),
  ("deployment_speed", "Deployment Speed"),
  ("vendor_selection_criteria", "Vendor Selection Criteria"),
  ("procurement_experience", "Procurement Experience"),
  ("renewal_partnership_evolution", "Renewal & Partnership Evolution"),
  ("upsell_cross_sell_expansion", "Upsell / Cross-sell Expansion"),
  ("customer_success_support", "Customer Success & Support"),
  ("training_enablement_adoption", "Training & Enablement"),
  ("community_advisory_participation", "Community & Advisory Board"),
  ("co_innovation_product_feedback", "Co-innovation & Product Feedback"),
  ("change_management_champion_dev", "Change Management & Champions"),
  ("scaling_across_org", "Scaling Across the Organization"),
  ("platform_governance_coe", "Platform Governance & CoE"),
  ("sales_enablement", "Sales Enablement"),
  ("lessons_learned_implementation", "Lessons Learned"),
  ("cross_functional_collaboration", "Cross-functional Collaboration"),
  ("voice_of_customer_product", "Voice of Customer → Product"),
  ("pricing_packaging_validation", "Pricing & Packaging Validation"),
  ("churn_save_winback", "Churn Saves & Win-backs"),
  ("deal_anatomy", "Deal Anatomy"),
  ("customer_health_sentiment", "Customer Health & Sentiment"),
  ("reference_ability_development", "Reference-ability Development"),
  ("internal_process_improvement", "Internal Process Improvements"),
  ("industry_specific_usecase", "Industry-specific Use Case"),
  ("company_size_segment", "Company Size / Segment"),
  ("persona_specific_framing", "Persona-specific Framing"),
  ("geographic_regional_variation", "Geographic / Regional"),
  ("regulated_vs_unregulated", "Regulated vs. Unregulated"),
  ("public_sector_government", "Public Sector & Government")]

def allTopics : List Text := topicLabels.map (·.1.toList)

def topicLabel (topic : Text) : Text :=
  ((topicLabels.find? (·.1.toList == topic)).map (·.2.toList)).getD topic

/-! ## Prompts of a story -/

def template (pieces : List Text) : Text := pieces.flatten

inductive ChatRole where
  | system
  | user

structure ChatMessage where
  role : ChatRole
  content : Text

def storyTypeLabel : StoryType → Text
  | .fullAccountJourney => "Full Account Journey"
  | .topic topic => topicLabel topic

def storyLengthName : StoryLength → Text
  | .short => "SHORT"
  | .medium => "MEDIUM"
  | .long => "LONG"
  | .executive => "EXECUTIVE"

def storyLengthWordTarget : StoryLength → Text
  | .short => "500-800 words"
  | .medium => "900-1400 words"
  | .long => "1500-2400 words"
  | .executive => "350-600 words"

def storyOutlineName : StoryOutline → Text
  | .chronologicalJourney => "CHRONOLOGICAL_JOURNEY"
  | .problemSolutionImpact => "PROBLEM_SOLUTION_IMPACT"
  | .byTheNumbers => "BY_THE_NUMBERS"
  | .executiveBrief => "EXECUTIVE_BRIEF"
  | .implementationPlaybook => "IMPLEMENTATION_PLAYBOOK"
  | .dealAnatomy => "DEAL_ANATOMY"

def storyOutlineGuide : StoryOutline → Text
  | .chronologicalJourney =>
    "Use sections: Executive Summary, Timeline, Journey Phases, Key Outcomes, Notable Quotes."
  | .problemSolutionImpact =>
    template [
      "Use sections: Context, Problem, Why Previous Approach Failed, Solution Implementation, ",
      "Impact, Lessons Learned."]
  | .byTheNumbers =>
    template [
      "Lead with quantified outcomes; include metric table, benchmark comparisons, and key quote ",
      "callouts."]
  | .executiveBrief =>
    template [
      "Use concise board-ready sections: Business Context, Strategic Decision, ",
      "Financial/Operational Impact, Risks, Next Steps."]
  | .implementationPlaybook =>
    template [
      "Use sections: Initial State, Rollout Plan, Stakeholders, Integrations, ",
      "Risks/Mitigations, Time-to-Value."]
  | .dealAnatomy =>
    template [
      "Use sections: Opportunity Origin, Evaluation Criteria, Stakeholders, Competitive ",
      "Landscape, Commercial Terms, Why Won."]

def storyFormatName : StoryFormat → Text
  | .beforeAfterTransformation => "before_after_transformation"
  | .dayInTheLife => "day_in_the_life"
  | .byTheNumbersSnapshot => "by_the_numbers_snapshot"
  | .videoTestimonialSoundbite => "video_testimonial_soundbite"
  | .jointWebinarPresentation => "joint_webinar_presentation"
  | .peerReferenceCallGuide => "peer_reference_call_guide"
  | .analystValidatedStudy => "analyst_validated_study"

structure StorySettings where
  storyLength : StoryLength
  storyOutline : StoryOutline
  storyType : StoryType
  storyFormat : Option StoryFormat

def StorySettings.formatName (settings : StorySettings) : Text :=
  (settings.storyFormat.map storyFormatName).getD "auto"

def numeral (number : Nat) : Text := Nat.toDigits 10 number

def journeySummaryPrompt : Text :=
  template [
    "You are an expert B2B content strategist writing evidence-based customer stories for SaaS ",
    "buyers.\n\n",
    "Rules:\n",
    "1. Use only facts from provided transcripts/context. Never invent.\n",
    "2. Prioritize quantified outcomes, timeline accuracy, and decision rationale.\n",
    "3. Keep writing in third person and business-professional tone.\n",
    "4. Use markdown headings/tables/lists for readability.\n",
    "5. Clearly separate factual evidence from inferred interpretation.\n",
    "6. Make the output useful for RevOps, Marketing, and Sales stakeholders."]

def instruction (label : Text) (content : Option Text) : Option Text :=
  (content.filter (!·.isEmpty)).map (label ++ ·)

def listed (label separator : Text) (items : List Text) : Option Text :=
  if items.isEmpty then none else some (label ++ Text.join separator items)

def contextLines (context : StoryContextSettings) : Text :=
  Text.join ['\n'] <| List.reduceOption [
    instruction "Company Context: " context.companyOverview,
    listed "Products: " ", " context.products,
    listed "Target Personas: " ", " context.targetPersonas,
    listed "Target Industries: " ", " context.targetIndustries,
    listed "Differentiators: " " | " context.differentiators,
    listed "Approved Proof Points: " " | " context.proofPoints,
    listed "Never claim these unless explicit in transcript: " " | " context.bannedClaims,
    listed "Preferred Terminology: " ", " context.approvedTerminology,
    instruction "Writing Style Guide: " context.writingStyleGuide]

def buildStorySystemPrompt (context : StoryContextSettings) (settings : StorySettings) : Text :=
  let lines := contextLines context
  template [
    journeySummaryPrompt,
    "\n\nOutput controls:\n- Story Type Focus: ", storyTypeLabel settings.storyType,
    "\n- Target Length: ", storyLengthName settings.storyLength,
    " (", storyLengthWordTarget settings.storyLength, ")",
    "\n- Outline Template: ", storyOutlineName settings.storyOutline,
    " (", storyOutlineGuide settings.storyOutline, ")",
    "\n- Format Angle: ", settings.formatName, "\n\n",
    if lines.isEmpty then "No additional organization instructions provided."
    else "Organization Instructions:\n" ++ lines,
    "\n"]

structure StoryPromptInput where
  accountName : Text
  callCount : Nat
  topicSummary : Text
  truncationNote : Text
  mergedMarkdown : Text
  settings : StorySettings

def storyUserPromptHead (input : StoryPromptInput) : Text :=
  template [
    "Account Name: ", input.accountName,
    "\nNumber of calls: ", numeral input.callCount,
    "\nRequested Story Type: ", storyTypeLabel input.settings.storyType,
    "\nRequested Length: ", storyLengthName input.settings.storyLength,
    "\nRequested Outline: ", storyOutlineName input.settings.storyOutline,
    "\nRequested Format: ", input.settings.formatName, "\n",
    if input.topicSummary.isEmpty then []
    else template ["\nKey Topics Identified: ", input.topicSummary, "\n"],
    input.truncationNote,
    "\n\nInstructions:\n",
    "- Center the narrative around the requested story type.\n",
    "- Use only transcript evidence for claims.\n",
    "- Surface explicit metrics in a dedicated outcomes section.\n",
    "- Include practical implications for RevOps, Marketing, and Sales.\n\n",
    "FULL MERGED TRANSCRIPT:\n"]

def buildStoryUserPrompt (input : StoryPromptInput) : Text :=
  storyUserPromptHead input ++ input.mergedMarkdown

def quoteExtractionPrompt : Text :=
  template [
    "You are a precision extraction engine. Given transcript segments, extract ONLY direct quotes ",
    "that contain quantified value — specific numbers, percentages, dollar amounts, time savings, ",
    "or measurable outcomes.\n\n",
    "For each quote found, return JSON with:\n",
    "- \"speaker\": who said it (or null if unknown)\n",
    "- \"quote_text\": the exact quote\n",
    "- \"context\": 1-sentence description of when/why this was said\n",
    "- \"metric_type\": one of \"cost_savings\", \"revenue\", \"time_saved\", \"efficiency\", ",
    "\"error_reduction\", \"adoption\", \"scale\", \"roi\", \"other\"\n",
    "- \"metric_value\": the specific number/percentage/amount mentioned\n\n",
    "RULES:\n",
    "1. Only extract REAL quotes from the text — never fabricate.\n",
    "2. The quote MUST contain a quantified value. Skip purely qualitative statements.\n",
    "3. Include enough of the quote for context but trim filler words.\n",
    "4. Respond with JSON: \x7b \"quotes\": [...] \x7d"]

end StoryEngine.Stories
