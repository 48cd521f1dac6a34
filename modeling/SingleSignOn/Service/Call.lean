import SingleSignOn.Service.Accounts
import SingleSignOn.Service.Apps
import SingleSignOn.Service.Sessions
import SingleSignOn.Service.Sweeper

namespace SingleSignOn

/-!
# Calls to the service

What can be asked of the service, as data.  What happens to a deployment is
then a list of such calls, and a statement about every history is a statement
about every list.
-/

/-- A call to the service. -/
inductive ServiceCall where
  | register (email password : String) (profile : Profile)
  | login (email password : String) (appId : AppId)
  | refresh (token : String)
  | logout (token : String)
  | validateToken (token : String)
  | authenticate (token : String)
  | isAdmin (userId : UserId) (appId : AppId)
  | userInfo (userId : UserId)
  | listUsers
  | updateUser (userId : UserId) (change : ProfileChange)
  | deleteUser (userId : UserId)
  | createApp (name link : String) (secret : Option String)
  | getApp (appId : AppId)
  | listApps
  | updateApp (appId : AppId) (name link : Option String)
  | deleteApp (appId : AppId)
  | listAppUsers (appId : AppId)
  | setEnabled (appId : AppId) (enabled : Bool)
  | grantAdmin (userId : UserId) (appId : AppId)
  | revokeAdmin (userId : UserId) (appId : AppId)
  | sweep
  deriving DecidableEq, Repr

/-- What a successful call to the service returns. -/
abbrev ServiceCall.Reply : ServiceCall -> Type
  | register _ _ _ => UserId
  | login _ _ _ => Session
  | refresh _ => Session
  | logout _ => Bool
  | validateToken _ => Option AccessClaims
  | authenticate _ => AccessClaims
  | isAdmin _ _ => Bool
  | userInfo _ => User
  | listUsers => List User
  | updateUser _ _ => User
  | deleteUser _ => Unit
  | createApp _ _ _ => App
  | getApp _ => App
  | listApps => List App
  | updateApp _ _ _ => App
  | deleteApp _ => Unit
  | listAppUsers _ => List AppUser
  | setEnabled _ _ => Unit
  | grantAdmin _ _ => Unit
  | revokeAdmin _ _ => Bool
  | sweep => Nat

/-- The operation that answers a call. -/
def Service.operation (service : Service) : (call : ServiceCall) -> Operation call.Reply
  | .register email password profile => service.register email password profile
  | .login email password appId => service.login email password appId
  | .refresh token => service.refresh token
  | .logout token => service.logout token
  | .validateToken token => service.validateToken token
  | .authenticate token => service.authenticate token
  | .isAdmin userId appId => service.isAdmin userId appId
  | .userInfo userId => service.userInfo userId
  | .listUsers => service.listUsers
  | .updateUser userId change => service.updateUser userId change
  | .deleteUser userId => service.deleteUser userId
  | .createApp name link secret => service.createApp name link secret
  | .getApp appId => service.getApp appId
  | .listApps => service.listApps
  | .updateApp appId name link => service.updateApp appId name link
  | .deleteApp appId => service.deleteApp appId
  | .listAppUsers appId => service.listAppUsers appId
  | .setEnabled appId enabled => service.setEnabled appId enabled
  | .grantAdmin userId appId => service.grantAdmin userId appId
  | .revokeAdmin userId appId => service.revokeAdmin userId appId
  | .sweep => service.sweep

/-- The program that answers a call, with its failure as a result. -/
def Service.program (service : Service) (call : ServiceCall) : Program (Except Error call.Reply) :=
  (service.operation call).run

end SingleSignOn
