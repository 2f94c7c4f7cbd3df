import Mathlib.Data.List.Basic

set_option autoImplicit false

namespace ReviewProtocol

/-- `client::RequestCode`: what an agent is asked. -/
inductive Client.RequestCode where
  | dnsStart
  | dnsStop
  | reboot
  | reloadConfig
  | reloadTi
  | resourceUsage
  | torExitNodeList
  | samplingPolicyList
  | reloadFilterRule
  | updateConfig
  | deleteSamplingPolicy
  | internalNetworkList
  | allowlist
  | blocklist
  | echoRequest
  | trustedUserAgentList
  | trustedDomainList
  | processList
  | semiSupervisedModels
  | shutdown
  | deleteCustomerData
  | nodeService
  | nodeNetworkInterface
  | nodeHostname
  | nodeTimeSync
  | nodeLogging
  | nodeRemoteAccess
  | nodePower
  | nodeObservation
  | nodeVersion
  | nodePackage
  | nodeEnroll
  | trainModel
  | cloneModel
  | cancelRun
  | runDetectorOnce
  | unknown
deriving DecidableEq, Repr

namespace Client.RequestCode

def discriminant : RequestCode → UInt32
  | dnsStart => 1
  | dnsStop => 2
  | reboot => 4
  | reloadConfig => 6
  | reloadTi => 5
  | resourceUsage => 7
  | torExitNodeList => 8
  | samplingPolicyList => 9
  | reloadFilterRule => 10
  | updateConfig => 12
  | deleteSamplingPolicy => 13
  | internalNetworkList => 14
  | allowlist => 15
  | blocklist => 16
  | echoRequest => 17
  | trustedUserAgentList => 18
  | trustedDomainList => 0
  | processList => 19
  | semiSupervisedModels => 20
  | shutdown => 21
  | deleteCustomerData => 22
  | nodeService => 100
  | nodeNetworkInterface => 101
  | nodeHostname => 102
  | nodeTimeSync => 103
  | nodeLogging => 104
  | nodeRemoteAccess => 105
  | nodePower => 106
  | nodeObservation => 107
  | nodeVersion => 108
  | nodePackage => 109
  | nodeEnroll => 110
  | trainModel => 23
  | cloneModel => 24
  | cancelRun => 25
  | runDetectorOnce => 26
  | unknown => 4294967295

def all : List RequestCode :=
  [dnsStart, dnsStop, reboot, reloadConfig, reloadTi, resourceUsage, torExitNodeList,
    samplingPolicyList, reloadFilterRule, updateConfig, deleteSamplingPolicy, internalNetworkList,
    allowlist, blocklist, echoRequest, trustedUserAgentList, trustedDomainList, processList,
    semiSupervisedModels, shutdown, deleteCustomerData, nodeService, nodeNetworkInterface,
    nodeHostname, nodeTimeSync, nodeLogging, nodeRemoteAccess, nodePower, nodeObservation,
    nodeVersion, nodePackage, nodeEnroll, trainModel, cloneModel, cancelRun,
    runDetectorOnce, unknown]

/-- The variant with this discriminant, or `unknown`. -/
def fromPrimitive (code : UInt32) : RequestCode :=
  (all.find? fun request => request.discriminant == code).getD unknown

@[simp] theorem fromPrimitive_discriminant (request : RequestCode) :
    fromPrimitive request.discriminant = request := by
  cases request <;> rfl

/-- Only its own discriminant reads as an assigned variant. -/
theorem discriminant_fromPrimitive (code : UInt32) (assigned : fromPrimitive code ≠ unknown) :
    (fromPrimitive code).discriminant = code := by
  unfold fromPrimitive at assigned ⊢
  cases found : all.find? fun request => request.discriminant == code with
  | none =>
      rw [found] at assigned
      exact absurd rfl assigned
  | some request =>
      have same := List.find?_some found
      simpa using same

end Client.RequestCode

/-- `server::RequestCode`: what the manager is asked. -/
inductive Server.RequestCode where
  | getDataSource
  | getIndicator
  | getMaxEventIdNum
  | getModel
  | getModelNames
  | insertColumnStatistics
  | insertModel
  | insertTimeSeries
  | removeModel
  | removeOutliers
  | updateClusters
  | updateModel
  | updateOutliers
  | insertEventLabels
  | getDataSourceList
  | getLabelDbPatterns
  | insertDataSource
  | renewCertificate
  | getTrustedDomainList
  | getOutliers
  | getTorExitNodeList
  | getInternalNetworkList
  | getAllowlist
  | getBlocklist
  | getPretrainedModel
  | getTrustedUserAgentList
  | getConfig
  | updateHostOpenedPorts
  | updateHostOsAgents
  | getSamplingPolicyList
  | reportCustomerDataDeletion
  | uploadRunModel
  | reportRun
  | reportActiveRuns
  | reportDetectorStatus
  | unknown
deriving DecidableEq, Repr

namespace Server.RequestCode

def discriminant : RequestCode → UInt32
  | getDataSource => 0
  | getIndicator => 1
  | getMaxEventIdNum => 2
  | getModel => 3
  | getModelNames => 4
  | insertColumnStatistics => 5
  | insertModel => 6
  | insertTimeSeries => 7
  | removeModel => 8
  | removeOutliers => 9
  | updateClusters => 10
  | updateModel => 11
  | updateOutliers => 12
  | insertEventLabels => 13
  | getDataSourceList => 14
  | getLabelDbPatterns => 15
  | insertDataSource => 20
  | renewCertificate => 23
  | getTrustedDomainList => 24
  | getOutliers => 25
  | getTorExitNodeList => 26
  | getInternalNetworkList => 31
  | getAllowlist => 32
  | getBlocklist => 33
  | getPretrainedModel => 34
  | getTrustedUserAgentList => 35
  | getConfig => 36
  | updateHostOpenedPorts => 37
  | updateHostOsAgents => 38
  | getSamplingPolicyList => 39
  | reportCustomerDataDeletion => 40
  | uploadRunModel => 41
  | reportRun => 42
  | reportActiveRuns => 43
  | reportDetectorStatus => 44
  | unknown => 4294967295

def all : List RequestCode :=
  [getDataSource, getIndicator, getMaxEventIdNum, getModel, getModelNames, insertColumnStatistics,
    insertModel, insertTimeSeries, removeModel, removeOutliers, updateClusters, updateModel,
    updateOutliers, insertEventLabels, getDataSourceList, getLabelDbPatterns, insertDataSource,
    renewCertificate, getTrustedDomainList, getOutliers, getTorExitNodeList,
    getInternalNetworkList, getAllowlist, getBlocklist, getPretrainedModel,
    getTrustedUserAgentList, getConfig, updateHostOpenedPorts, updateHostOsAgents,
    getSamplingPolicyList, reportCustomerDataDeletion, uploadRunModel, reportRun,
    reportActiveRuns, reportDetectorStatus, unknown]

/-- The variant with this discriminant, or `unknown`. -/
def fromPrimitive (code : UInt32) : RequestCode :=
  (all.find? fun request => request.discriminant == code).getD unknown

@[simp] theorem fromPrimitive_discriminant (request : RequestCode) :
    fromPrimitive request.discriminant = request := by
  cases request <;> rfl

/-- Only its own discriminant reads as an assigned variant. -/
theorem discriminant_fromPrimitive (code : UInt32) (assigned : fromPrimitive code ≠ unknown) :
    (fromPrimitive code).discriminant = code := by
  unfold fromPrimitive at assigned ⊢
  cases found : all.find? fun request => request.discriminant == code with
  | none =>
      rw [found] at assigned
      exact absurd rfl assigned
  | some request =>
      have same := List.find?_some found
      simpa using same

end Server.RequestCode

end ReviewProtocol
