import ReviewProtocol.RequestCode
import ReviewProtocol.Types

set_option autoImplicit false

namespace ReviewProtocol

/-- A logical service identifier; an empty method names the whole family. -/
structure ServiceId where
  family : String
  method : String
deriving DecidableEq, Repr

namespace ServiceId

def nodeService : ServiceId := ⟨"node.service", ""⟩
def nodeNetworkInterface : ServiceId := ⟨"node.network_interface", ""⟩
def nodeHostname : ServiceId := ⟨"node.hostname", ""⟩
def nodeTimeSync : ServiceId := ⟨"node.time_sync", ""⟩
def nodeLogging : ServiceId := ⟨"node.logging", ""⟩
def nodeRemoteAccess : ServiceId := ⟨"node.remote_access", ""⟩
def nodePower : ServiceId := ⟨"node.power", ""⟩
def nodeObservation : ServiceId := ⟨"node.observation", ""⟩
def nodeVersion : ServiceId := ⟨"node.version", ""⟩
def nodePackage : ServiceId := ⟨"node.package", ""⟩
def nodeEnroll : ServiceId := ⟨"node.enroll", ""⟩
def nodeServiceStart : ServiceId := ⟨"node.service", "start"⟩
def nodeServiceStop : ServiceId := ⟨"node.service", "stop"⟩
def nodeServiceStatus : ServiceId := ⟨"node.service", "status"⟩
def nodeServiceRestart : ServiceId := ⟨"node.service", "restart"⟩
def nodeNetworkInterfaceList : ServiceId := ⟨"node.network_interface", "list"⟩
def nodeNetworkInterfaceGet : ServiceId := ⟨"node.network_interface", "get"⟩
def nodeNetworkInterfaceSet : ServiceId := ⟨"node.network_interface", "set"⟩
def nodeNetworkInterfaceResetConfig : ServiceId := ⟨"node.network_interface", "reset_config"⟩
def nodeNetworkInterfaceRemove : ServiceId := ⟨"node.network_interface", "remove"⟩
def nodeHostnameGet : ServiceId := ⟨"node.hostname", "get"⟩
def nodeHostnameSet : ServiceId := ⟨"node.hostname", "set"⟩
def nodeTimeSyncGet : ServiceId := ⟨"node.time_sync", "get"⟩
def nodeTimeSyncSet : ServiceId := ⟨"node.time_sync", "set"⟩
def nodeTimeSyncEnable : ServiceId := ⟨"node.time_sync", "enable"⟩
def nodeTimeSyncDisable : ServiceId := ⟨"node.time_sync", "disable"⟩
def nodeTimeSyncStatus : ServiceId := ⟨"node.time_sync", "status"⟩
def nodeLoggingGet : ServiceId := ⟨"node.logging", "get"⟩
def nodeLoggingSet : ServiceId := ⟨"node.logging", "set"⟩
def nodeLoggingClear : ServiceId := ⟨"node.logging", "clear"⟩
def nodeLoggingRestart : ServiceId := ⟨"node.logging", "restart"⟩
def nodeRemoteAccessGet : ServiceId := ⟨"node.remote_access", "get"⟩
def nodeRemoteAccessSet : ServiceId := ⟨"node.remote_access", "set"⟩
def nodeRemoteAccessRestart : ServiceId := ⟨"node.remote_access", "restart"⟩
def nodePowerReboot : ServiceId := ⟨"node.power", "reboot"⟩
def nodePowerShutdown : ServiceId := ⟨"node.power", "shutdown"⟩
def nodePowerGracefulReboot : ServiceId := ⟨"node.power", "graceful_reboot"⟩
def nodePowerGracefulShutdown : ServiceId := ⟨"node.power", "graceful_shutdown"⟩
def nodeObservationProcessList : ServiceId := ⟨"node.observation", "process_list"⟩
def nodeObservationResourceUsage : ServiceId := ⟨"node.observation", "resource_usage"⟩
def nodeObservationUptime : ServiceId := ⟨"node.observation", "uptime"⟩
def nodeVersionGet : ServiceId := ⟨"node.version", "get"⟩
def nodeVersionSetOs : ServiceId := ⟨"node.version", "set_os_version"⟩
def nodeVersionSetProduct : ServiceId := ⟨"node.version", "set_product_version"⟩
def nodePackageInstall : ServiceId := ⟨"node.package", "install"⟩
def nodePackageRemove : ServiceId := ⟨"node.package", "remove"⟩
def nodePackageList : ServiceId := ⟨"node.package", "list"⟩
def nodePackageStatus : ServiceId := ⟨"node.package", "status"⟩
def nodePackageListHostPorts : ServiceId := ⟨"node.package", "list_host_ports"⟩
def nodeEnrollRegister : ServiceId := ⟨"node.enroll", "register"⟩
def nodeEnrollDeregister : ServiceId := ⟨"node.enroll", "deregister"⟩
def commonDnsStart : ServiceId := ⟨"common", "dns_start"⟩
def commonDnsStop : ServiceId := ⟨"common", "dns_stop"⟩
def commonReloadConfig : ServiceId := ⟨"common", "reload_config"⟩
def commonUpdateConfig : ServiceId := ⟨"common", "update_config"⟩
def commonDeleteCustomerData : ServiceId := ⟨"common", "delete_customer_data"⟩
def commonReloadTi : ServiceId := ⟨"common", "reload_ti"⟩
def commonTorExitNodeList : ServiceId := ⟨"common", "tor_exit_node_list"⟩
def commonTrustedDomainList : ServiceId := ⟨"common", "trusted_domain_list"⟩
def commonSamplingPolicyList : ServiceId := ⟨"common", "sampling_policy_list"⟩
def commonDeleteSamplingPolicy : ServiceId := ⟨"common", "delete_sampling_policy"⟩
def commonReloadFilterRule : ServiceId := ⟨"common", "reload_filter_rule"⟩
def commonInternalNetworkList : ServiceId := ⟨"common", "internal_network_list"⟩
def commonAllowlist : ServiceId := ⟨"common", "allowlist"⟩
def commonBlocklist : ServiceId := ⟨"common", "blocklist"⟩
def commonEcho : ServiceId := ⟨"common", "echo"⟩
def commonTrustedUserAgentList : ServiceId := ⟨"common", "trusted_user_agent_list"⟩
def commonSemiSupervisedModels : ServiceId := ⟨"common", "semi_supervised_models"⟩
def engineTrainModel : ServiceId := ⟨"engine", "train_model"⟩
def engineCloneModel : ServiceId := ⟨"engine", "clone_model"⟩
def engineCancelRun : ServiceId := ⟨"engine", "cancel_run"⟩
def engineRunDetectorOnce : ServiceId := ⟨"engine", "run_detector_once"⟩
def serverDataSourceGet : ServiceId := ⟨"server.data_source", "get"⟩
def serverDataSourceList : ServiceId := ⟨"server.data_source", "list"⟩
def serverDataSourceInsert : ServiceId := ⟨"server.data_source", "insert"⟩
def serverModelGet : ServiceId := ⟨"server.model", "get"⟩
def serverModelGetNames : ServiceId := ⟨"server.model", "get_names"⟩
def serverModelInsert : ServiceId := ⟨"server.model", "insert"⟩
def serverModelRemove : ServiceId := ⟨"server.model", "remove"⟩
def serverModelUpdate : ServiceId := ⟨"server.model", "update"⟩
def serverModelGetPretrained : ServiceId := ⟨"server.model", "get_pretrained"⟩
def serverIndicatorGet : ServiceId := ⟨"server.indicator", "get"⟩
def serverEventGetMaxIdNum : ServiceId := ⟨"server.event", "get_max_id_num"⟩
def serverEventInsertLabels : ServiceId := ⟨"server.event", "insert_labels"⟩
def serverStatisticsInsertColumn : ServiceId := ⟨"server.statistics", "insert_column"⟩
def serverStatisticsInsertTimeSeries : ServiceId := ⟨"server.statistics", "insert_time_series"⟩
def serverOutlierGet : ServiceId := ⟨"server.outlier", "get"⟩
def serverOutlierRemove : ServiceId := ⟨"server.outlier", "remove"⟩
def serverOutlierUpdate : ServiceId := ⟨"server.outlier", "update"⟩
def serverClusterUpdate : ServiceId := ⟨"server.cluster", "update"⟩
def serverLabelGetDbPatterns : ServiceId := ⟨"server.label", "get_db_patterns"⟩
def serverCertificateRenew : ServiceId := ⟨"server.certificate", "renew"⟩
def serverConfigGet : ServiceId := ⟨"server.config", "get"⟩
def serverHostUpdateOpenedPorts : ServiceId := ⟨"server.host", "update_opened_ports"⟩
def serverHostUpdateOsAgents : ServiceId := ⟨"server.host", "update_os_agents"⟩
def serverListTrustedDomain : ServiceId := ⟨"server.list", "trusted_domain"⟩
def serverListTorExitNode : ServiceId := ⟨"server.list", "tor_exit_node"⟩
def serverListInternalNetwork : ServiceId := ⟨"server.list", "internal_network"⟩
def serverListAllowlist : ServiceId := ⟨"server.list", "allowlist"⟩
def serverListBlocklist : ServiceId := ⟨"server.list", "blocklist"⟩
def serverListTrustedUserAgent : ServiceId := ⟨"server.list", "trusted_user_agent"⟩
def serverListSamplingPolicy : ServiceId := ⟨"server.list", "sampling_policy"⟩
def serverCustomerDataDeletionReport : ServiceId := ⟨"server.customer_data_deletion", "report"⟩
def serverRunUploadModel : ServiceId := ⟨"server.run", "upload_model"⟩
def serverRunReport : ServiceId := ⟨"server.run", "report"⟩
def serverRunReportActive : ServiceId := ⟨"server.run", "report_active"⟩
def serverDetectorReportStatus : ServiceId := ⟨"server.detector", "report_status"⟩

end ServiceId

open ServiceId

def NodeServiceRequest.serviceId : NodeServiceRequest → ServiceId
  | .start _ => nodeServiceStart
  | .stop _ => nodeServiceStop
  | .status _ => nodeServiceStatus
  | .restart _ => nodeServiceRestart

def NodeNetworkInterfaceRequest.serviceId : NodeNetworkInterfaceRequest → ServiceId
  | .list _ => nodeNetworkInterfaceList
  | .get _ => nodeNetworkInterfaceGet
  | .set _ _ => nodeNetworkInterfaceSet
  | .resetConfig _ => nodeNetworkInterfaceResetConfig
  | .remove _ _ => nodeNetworkInterfaceRemove

def NodeHostnameRequest.serviceId : NodeHostnameRequest → ServiceId
  | .get => nodeHostnameGet
  | .set _ => nodeHostnameSet

def NodeTimeSyncRequest.serviceId : NodeTimeSyncRequest → ServiceId
  | .get => nodeTimeSyncGet
  | .set _ => nodeTimeSyncSet
  | .enable => nodeTimeSyncEnable
  | .disable => nodeTimeSyncDisable
  | .status => nodeTimeSyncStatus

def NodeLoggingRequest.serviceId : NodeLoggingRequest → ServiceId
  | .get => nodeLoggingGet
  | .set _ => nodeLoggingSet
  | .clear => nodeLoggingClear
  | .restart => nodeLoggingRestart

def NodeRemoteAccessRequest.serviceId : NodeRemoteAccessRequest → ServiceId
  | .get => nodeRemoteAccessGet
  | .set _ => nodeRemoteAccessSet
  | .restart => nodeRemoteAccessRestart

def NodePowerRequest.serviceId : NodePowerRequest → ServiceId
  | .reboot => nodePowerReboot
  | .shutdown => nodePowerShutdown
  | .gracefulReboot => nodePowerGracefulReboot
  | .gracefulShutdown => nodePowerGracefulShutdown

def NodeObservationRequest.serviceId : NodeObservationRequest → ServiceId
  | .processList => nodeObservationProcessList
  | .resourceUsage => nodeObservationResourceUsage
  | .uptime => nodeObservationUptime

def NodeVersionRequest.serviceId : NodeVersionRequest → ServiceId
  | .get => nodeVersionGet
  | .setOsVersion _ => nodeVersionSetOs
  | .setProductVersion _ => nodeVersionSetProduct

def NodePackageRequest.serviceId : NodePackageRequest → ServiceId
  | .install _ => nodePackageInstall
  | .remove _ _ _ => nodePackageRemove
  | .listInstalled => nodePackageList
  | .status _ _ => nodePackageStatus
  | .listHostPorts => nodePackageListHostPorts

def NodeEnrollRequest.serviceId : NodeEnrollRequest → ServiceId
  | .register _ _ _ _ _ _ _ => nodeEnrollRegister
  | .deregister _ _ _ _ => nodeEnrollDeregister

/-- Node codes name a family; the method is known only from the arguments. -/
def fromClientRequestCode : Client.RequestCode → Option ServiceId
  | .dnsStart => some commonDnsStart
  | .dnsStop => some commonDnsStop
  | .reboot => some nodePowerReboot
  | .reloadConfig => some commonReloadConfig
  | .reloadTi => some commonReloadTi
  | .resourceUsage => some nodeObservationResourceUsage
  | .torExitNodeList => some commonTorExitNodeList
  | .samplingPolicyList => some commonSamplingPolicyList
  | .reloadFilterRule => some commonReloadFilterRule
  | .updateConfig => some commonUpdateConfig
  | .deleteCustomerData => some commonDeleteCustomerData
  | .deleteSamplingPolicy => some commonDeleteSamplingPolicy
  | .internalNetworkList => some commonInternalNetworkList
  | .allowlist => some commonAllowlist
  | .blocklist => some commonBlocklist
  | .echoRequest => some commonEcho
  | .trustedUserAgentList => some commonTrustedUserAgentList
  | .trustedDomainList => some commonTrustedDomainList
  | .processList => some nodeObservationProcessList
  | .semiSupervisedModels => some commonSemiSupervisedModels
  | .shutdown => some nodePowerShutdown
  | .nodeService => some nodeService
  | .nodeNetworkInterface => some nodeNetworkInterface
  | .nodeHostname => some nodeHostname
  | .nodeTimeSync => some nodeTimeSync
  | .nodeLogging => some nodeLogging
  | .nodeRemoteAccess => some nodeRemoteAccess
  | .nodePower => some nodePower
  | .nodeObservation => some nodeObservation
  | .nodeVersion => some nodeVersion
  | .nodePackage => some nodePackage
  | .nodeEnroll => some nodeEnroll
  | .trainModel => some engineTrainModel
  | .cloneModel => some engineCloneModel
  | .cancelRun => some engineCancelRun
  | .runDetectorOnce => some engineRunDetectorOnce
  | .unknown => none

/-- Every server code but `unknown` names one method. -/
def fromServerRequestCode : Server.RequestCode → Option ServiceId
  | .getDataSource => some serverDataSourceGet
  | .getDataSourceList => some serverDataSourceList
  | .insertDataSource => some serverDataSourceInsert
  | .getModel => some serverModelGet
  | .getModelNames => some serverModelGetNames
  | .insertModel => some serverModelInsert
  | .removeModel => some serverModelRemove
  | .updateModel => some serverModelUpdate
  | .getPretrainedModel => some serverModelGetPretrained
  | .getIndicator => some serverIndicatorGet
  | .getMaxEventIdNum => some serverEventGetMaxIdNum
  | .insertEventLabels => some serverEventInsertLabels
  | .insertColumnStatistics => some serverStatisticsInsertColumn
  | .insertTimeSeries => some serverStatisticsInsertTimeSeries
  | .removeOutliers => some serverOutlierRemove
  | .updateOutliers => some serverOutlierUpdate
  | .getOutliers => some serverOutlierGet
  | .updateClusters => some serverClusterUpdate
  | .getLabelDbPatterns => some serverLabelGetDbPatterns
  | .renewCertificate => some serverCertificateRenew
  | .getConfig => some serverConfigGet
  | .updateHostOpenedPorts => some serverHostUpdateOpenedPorts
  | .updateHostOsAgents => some serverHostUpdateOsAgents
  | .getTrustedDomainList => some serverListTrustedDomain
  | .getTorExitNodeList => some serverListTorExitNode
  | .getInternalNetworkList => some serverListInternalNetwork
  | .getAllowlist => some serverListAllowlist
  | .getBlocklist => some serverListBlocklist
  | .getTrustedUserAgentList => some serverListTrustedUserAgent
  | .getSamplingPolicyList => some serverListSamplingPolicy
  | .reportCustomerDataDeletion => some serverCustomerDataDeletionReport
  | .uploadRunModel => some serverRunUploadModel
  | .reportRun => some serverRunReport
  | .reportActiveRuns => some serverRunReportActive
  | .reportDetectorStatus => some serverDetectorReportStatus
  | .unknown => none

/-- Only an unassigned code goes without a service. -/
theorem fromServerRequestCode_none {request : Server.RequestCode} :
    fromServerRequestCode request = none ↔ request = .unknown := by
  cases request <;> simp only [fromServerRequestCode, reduceCtorEq]

end ReviewProtocol
