import ArrasNode.Router.RouteMessage
import ArrasNode.Router.Cluster
import ArrasNode.Router.Activity
import ArrasNode.Router.NodeConnect
import ArrasNode.Session.State
import ArrasNode.Session.Computations
import ArrasNode.Session.Controller
import ArrasNode.Session.Computation
import ArrasNode.Session.Signal
import ArrasNode.Router.RoutingTable
import ArrasNode.Session.Sessions
import ArrasNode.Http.UrlRouter
import ArrasNode.Http.BanPolicy
import ArrasNode.Session.Expiration
import ArrasNode.Json.Value
import ArrasNode.Node.Tags
import ArrasNode.Session.ComputationConfig
import ArrasNode.Session.SessionConfig
import ArrasNode.Node.Service
import ArrasNode.Node.Resources
import ArrasNode.Node.Events
import ArrasNode.Node.HardwareFeatures
import ArrasNode.Node.Preemption
