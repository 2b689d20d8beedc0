import MediasoupClient.StringMap
import MediasoupClient.Parameters
import MediasoupClient.Decimal
import MediasoupClient.MediaSection
import MediasoupClient.RemoteSdp
import MediasoupClient.RemoteSdpBundle
import MediasoupClient.RemoteSdpRegistry
import MediasoupClient.RemoteSdpMedia
import MediasoupClient.RemoteSdpTransport
import MediasoupClient.RemoteSdpVersion
import MediasoupClient.RemoteSdpIceLite
import MediasoupClient.RemoteSdpAnchor
import MediasoupClient.RemoteSdpSlots
import MediasoupClient.Method
import MediasoupClient.Handler
import MediasoupClient.SendHandler
import MediasoupClient.RecvHandler
import MediasoupClient.RecvHandlerEffects
import MediasoupClient.SendHandlerEffects
import MediasoupClient.HandlerSections
import MediasoupClient.HandlerFailures
import MediasoupClient.RecvHandlerLocalIds
import MediasoupClient.HandlerRemoteSdp
import MediasoupClient.MediaSectionAnswer
import MediasoupClient.MediaSectionCodecs
import MediasoupClient.SendHandlerRtpParameters
import MediasoupClient.HandlerStreamIds
import MediasoupClient.HandlerTransceivers
import MediasoupClient.HandlerTransport
import MediasoupClient.SendHandlerLayers
import MediasoupClient.HandlerDtlsSetup
import MediasoupClient.RemoteSdpIndexes
import MediasoupClient.HandlerDefined
import MediasoupClient.RecvHandlerStop
import MediasoupClient.MediaSectionOptions
import MediasoupClient.RemoteSdpSsrcs
import MediasoupClient.MediaSectionFormat
import MediasoupClient.RemoteSdpUpdates
