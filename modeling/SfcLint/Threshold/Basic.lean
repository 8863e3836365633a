/-
# Thresholds

The limits that rules compare their measures with: whole numbers, ratios, tables of four limits
each, and a marker that escalates an issue by the path of the file. A set of thresholds gives a
value to each of them.
-/

import SfcLint.Issue.Severity
import SfcLint.Number.Binary64

namespace SfcLint

/-- The limits that are whole numbers. -/
inductive Limit
  | templateExpressionLength
  | templateExpressionLengthHigh
  | templateExpressionLengthMedium
  | templateMemberChainDepth
  | templateDepth
  | templateDepthHigh
  | deepTemplateDepth
  | componentScriptLength
  | componentMethodCount
  | componentPropsCount
  | componentComputedCount
  | componentTemplateDepth
  | propDrillingMinimum
  | propDrillingHigh
  | largeListMinimum
  | virtualizationThreshold
  | largeListHigh
  | largeListCritical
  | shallowReactivityMinimum
  | shallowReactivityThreshold
  | deepWatcherMedium
  | deepWatcherHigh
  deriving DecidableEq, Repr

/-- The tables of four limits. -/
inductive TierTable
  | vuexState
  | vuexMutation
  | vuexAction
  | vuexGetter
  | vuexStoreLine
  | guardResponsibility
  | guardLine
  deriving DecidableEq, Repr

/-- The limits that are ratios. -/
inductive RatioLimit
  | snapshotTest
  | snapshotTestHigh
  deriving DecidableEq, Repr

/-- Four limits. A value above a limit reaches the severity of that name. -/
structure Tiers where
  low : Binary64
  medium : Binary64
  high : Binary64
  critical : Binary64
  deriving DecidableEq, Repr

namespace Tiers

/-- The severity of a value, given which limits it is above. -/
def classifyBy (tiers : Tiers) (above : Binary64 → Bool) : Option Severity :=
  if above tiers.critical then some .critical
  else if above tiers.high then some .high
  else if above tiers.medium then some .medium
  else if above tiers.low then some .low
  else none

/-- The severity of a count. -/
def classify (tiers : Tiers) (value : Int) : Option Severity :=
  tiers.classifyBy fun limit => limit.isBelow value

end Tiers

/-- A value for every threshold. -/
structure Thresholds where
  limit : Limit → Int
  tiers : TierTable → Tiers
  ratio : RatioLimit → Binary64
  marker : Option String

namespace Limit

/-- All limits that are whole numbers, in the order in which they are listed. -/
def every : List Limit :=
  [templateExpressionLength, templateExpressionLengthHigh, templateExpressionLengthMedium,
    templateMemberChainDepth, templateDepth, templateDepthHigh, deepTemplateDepth,
    componentScriptLength, componentMethodCount, componentPropsCount, componentComputedCount,
    componentTemplateDepth, propDrillingMinimum, propDrillingHigh, largeListMinimum,
    virtualizationThreshold, largeListHigh, largeListCritical, shallowReactivityMinimum,
    shallowReactivityThreshold, deepWatcherMedium, deepWatcherHigh]

/-- The name of a limit in settings files. -/
def publicName : Limit → String
  | templateExpressionLength => "templateExpressionLength"
  | templateExpressionLengthHigh => "templateExpressionLengthHigh"
  | templateExpressionLengthMedium => "templateExpressionLengthMedium"
  | templateMemberChainDepth => "templateMemberChainDepth"
  | templateDepth => "templateDepth"
  | templateDepthHigh => "templateDepthHigh"
  | deepTemplateDepth => "deepTemplateDepth"
  | componentScriptLength => "componentScriptLength"
  | componentMethodCount => "componentMethodCount"
  | componentPropsCount => "componentPropsCount"
  | componentComputedCount => "componentComputedCount"
  | componentTemplateDepth => "componentTemplateDepth"
  | propDrillingMinimum => "propDrillingMinimum"
  | propDrillingHigh => "propDrillingHigh"
  | largeListMinimum => "largeListMinimum"
  | virtualizationThreshold => "virtualizationThreshold"
  | largeListHigh => "largeListHigh"
  | largeListCritical => "largeListCritical"
  | shallowReactivityMinimum => "shallowReactivityMinimum"
  | shallowReactivityThreshold => "shallowReactivityThreshold"
  | deepWatcherMedium => "deepWatcherMedium"
  | deepWatcherHigh => "deepWatcherHigh"

/-- The other name of a limit, with words in small letters joined by underscores. -/
def plainName : Limit → String
  | templateExpressionLength => "template_expression_length"
  | templateExpressionLengthHigh => "template_expression_length_high"
  | templateExpressionLengthMedium => "template_expression_length_medium"
  | templateMemberChainDepth => "template_member_chain_depth"
  | templateDepth => "template_depth"
  | templateDepthHigh => "template_depth_high"
  | deepTemplateDepth => "deep_template_depth"
  | componentScriptLength => "component_script_length"
  | componentMethodCount => "component_method_count"
  | componentPropsCount => "component_props_count"
  | componentComputedCount => "component_computed_count"
  | componentTemplateDepth => "component_template_depth"
  | propDrillingMinimum => "prop_drilling_minimum"
  | propDrillingHigh => "prop_drilling_high"
  | largeListMinimum => "large_list_minimum"
  | virtualizationThreshold => "virtualization_threshold"
  | largeListHigh => "large_list_high"
  | largeListCritical => "large_list_critical"
  | shallowReactivityMinimum => "shallow_reactivity_minimum"
  | shallowReactivityThreshold => "shallow_reactivity_threshold"
  | deepWatcherMedium => "deep_watcher_medium"
  | deepWatcherHigh => "deep_watcher_high"

/-- The limit that holds when nothing else is set. -/
def standard : Limit → Int
  | templateExpressionLength => 40
  | templateExpressionLengthHigh => 80
  | templateExpressionLengthMedium => 50
  | templateMemberChainDepth => 2
  | templateDepth => 6
  | templateDepthHigh => 7
  | deepTemplateDepth => 10
  | componentScriptLength => 500
  | componentMethodCount => 20
  | componentPropsCount => 15
  | componentComputedCount => 10
  | componentTemplateDepth => 6
  | propDrillingMinimum => 2
  | propDrillingHigh => 4
  | largeListMinimum => 100
  | virtualizationThreshold => 500
  | largeListHigh => 1000
  | largeListCritical => 5000
  | shallowReactivityMinimum => 500
  | shallowReactivityThreshold => 1000
  | deepWatcherMedium => 20
  | deepWatcherHigh => 50

end Limit

namespace TierTable

/-- All tables, in the order in which they are listed. -/
def every : List TierTable :=
  [vuexState, vuexMutation, vuexAction, vuexGetter, vuexStoreLine, guardResponsibility, guardLine]

/-- The name of a table in settings files. -/
def publicName : TierTable → String
  | vuexState => "vuexStateTiers"
  | vuexMutation => "vuexMutationTiers"
  | vuexAction => "vuexActionTiers"
  | vuexGetter => "vuexGetterTiers"
  | vuexStoreLine => "vuexStoreLineTiers"
  | guardResponsibility => "guardResponsibilityTiers"
  | guardLine => "guardLineTiers"

/-- The other name of a table, with words in small letters joined by underscores. -/
def plainName : TierTable → String
  | vuexState => "vuex_state_tiers"
  | vuexMutation => "vuex_mutation_tiers"
  | vuexAction => "vuex_action_tiers"
  | vuexGetter => "vuex_getter_tiers"
  | vuexStoreLine => "vuex_store_line_tiers"
  | guardResponsibility => "guard_responsibility_tiers"
  | guardLine => "guard_line_tiers"

/-- Four limits that are whole numbers. -/
def ofInts (low medium high critical : Int) : Tiers :=
  ⟨.ofInt low, .ofInt medium, .ofInt high, .ofInt critical⟩

/-- The table that holds when nothing else is set. -/
def standard : TierTable → Tiers
  | vuexState => ofInts 10 20 40 50
  | vuexMutation => ofInts 10 20 35 50
  | vuexAction => ofInts 8 15 25 40
  | vuexGetter => ofInts 10 20 35 50
  | vuexStoreLine => ofInts 200 400 700 1000
  | guardResponsibility => ofInts 2 3 4 5
  | guardLine => ofInts 30 50 75 100

end TierTable

namespace RatioLimit

/-- All ratios, in the order in which they are listed. -/
def every : List RatioLimit := [snapshotTest, snapshotTestHigh]

/-- The name of a ratio in settings files. -/
def publicName : RatioLimit → String
  | snapshotTest => "snapshotTestRatio"
  | snapshotTestHigh => "snapshotTestRatioHigh"

/-- The other name of a ratio, with words in small letters joined by underscores. -/
def plainName : RatioLimit → String
  | snapshotTest => "snapshot_test_ratio"
  | snapshotTestHigh => "snapshot_test_ratio_high"

/-- The ratio that holds when nothing else is set. -/
def standard : RatioLimit → Binary64
  | snapshotTest => .ofQuotient false 1 2
  | snapshotTestHigh => .ofQuotient false 4 5

end RatioLimit

/-- The thresholds that hold when nothing else is set. -/
def Thresholds.standard : Thresholds :=
  ⟨Limit.standard, TierTable.standard, RatioLimit.standard, some "component"⟩

end SfcLint
